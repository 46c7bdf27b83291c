import Mathlib.Data.List.Forall2
import ReleaseBulletin.Change.Changelog
import ReleaseBulletin.Change.Companion

/-!
Editing a list of changes: merging others in, keeping those with a label, showing audit states and
taking a bucket. Whatever the edits, the list has some of the changes that entered it, in the order
in which they entered, and nothing of them differs but the audit states shown with their titles. The
order of edits matters only to the changes that they bring in.
-/
namespace ReleaseBulletin.Change.Editing

/-- The buckets of a changelog. -/
inductive Bucket where
  | releaseNotes
  | client
  | runtime
  deriving DecidableEq, Repr

def Bucket.changes (changelog : Changelog) : Bucket → List Change
  | .releaseNotes => changelog.releaseNotes
  | .client => changelog.client
  | .runtime => changelog.runtime

def Bucket.label (labels : Changelog.BucketLabels) : Bucket → String
  | .releaseNotes => labels.releaseNotes
  | .client => labels.client
  | .runtime => labels.runtime

/-- An edit of a list of changes. -/
inductive Edit where
  /-- Other changes come after those in the list, and companions go. -/
  | merge (others : List Change) (pattern : String)
  /-- Only the changes with a label stay. -/
  | keep (label : String)
  /-- Every change shows its audit state. -/
  | annotate
  /-- Only one bucket of the changes stays. -/
  | take (bucket : Bucket) (labels : Changelog.BucketLabels)
  deriving DecidableEq, Repr

def Edit.apply (changes : List Change) : Edit → List Change
  | .merge others pattern => Companion.merge changes others pattern
  | .keep label => Changelog.withLabel changes label
  | .annotate => changes.map Audit.annotate
  | .take bucket labels => bucket.changes (Changelog.classify changes labels)

/-- The list after the edits, which are made one after the other. -/
def edited (changes : List Change) (edits : List Edit) : List Change :=
  edits.foldl Edit.apply changes

/-- The changes that an edit brings into the list. -/
def Edit.entering : Edit → List Change
  | .merge others _ => others
  | .keep _ => []
  | .annotate => []
  | .take _ _ => []

/-- Whether a change that is in the list, or enters it, stays in it. -/
def Edit.isKeeping (c : Change) : Edit → Bool
  | .merge _ pattern => !Companion.isCompanion c pattern
  | .keep label => c.hasLabel label
  | .annotate => true
  | .take bucket labels => c.hasLabel (bucket.label labels)

/-- Whether changes show their audit state after the edit once more than before. -/
def Edit.isAnnotating : Edit → Bool
  | .merge _ _ => false
  | .keep _ => false
  | .annotate => true
  | .take bucket _ => bucket = .runtime

def Edit.shown (e : Edit) (c : Change) : Change := if e.isAnnotating then Audit.annotate c else c

/-- What an edit does: changes enter, some of all go, and those that stay are shown anew. -/
theorem Edit.apply_eq (changes : List Change) (e : Edit) :
    e.apply changes = ((changes ++ e.entering).filter (e.isKeeping ·)).map e.shown := by
  have hid : ∀ xs : List Change, xs.map (fun c => c) = xs := List.map_id'
  have hnone : changes ++ [] = changes := List.append_nil changes
  cases e with
  | merge others pattern => exact (hid _).symm
  | keep label =>
    rw [entering, hnone]
    exact (hid _).symm
  | annotate =>
    have hall : changes.filter (fun _ => true) = changes := List.filter_eq_self.2 fun _ _ => rfl
    simp only [entering, hnone, isKeeping, hall]
    rfl
  | take bucket labels =>
    rw [entering, hnone]
    cases bucket with
    | releaseNotes => exact (hid _).symm
    | client => exact (hid _).symm
    | runtime => rfl

/-- A change that entered a list, and the edits from then on. A merge that a change enters with is
among them; it shows no audit state, but it can drop the change at once. -/
structure Entry where
  change : Change
  since : List Edit
  deriving DecidableEq, Repr

/-- The changes that enter with the edits. -/
def entered : List Edit → List Entry
  | [] => []
  | e :: rest => e.entering.map (⟨·, e :: rest⟩) ++ entered rest

/-- The changes that were in the list at first, and those that entered with the edits. -/
def entries (initial : List Change) (edits : List Edit) : List Entry :=
  initial.map (⟨·, edits⟩) ++ entered edits

/-- Whether none of the edits dropped the change. -/
def Entry.isKept (x : Entry) : Bool := x.since.all (·.isKeeping x.change)

/-- How often the change's audit state was put in front of its title. -/
def Entry.annotations (x : Entry) : Nat := x.since.countP (·.isAnnotating)

/-- The words that one annotation puts in front of a title. -/
def auditWords (c : Change) : String := (Audit.status c.labels).heading ++ " "

/-- The title as it is displayed after the edits. -/
def Entry.prettyTitle (x : Entry) : String :=
  String.join (List.replicate x.annotations (auditWords x.change)) ++ x.change.prettyTitle

def Entry.shown (x : Entry) : Change := { x.change with prettyTitle := x.prettyTitle }

/-- A change that is an entry's, but for the audit states in front of its displayed title. -/
structure Entry.IsShownAs (x : Entry) (c : Change) : Prop where
  number : c.number = x.change.number
  title : c.title = x.change.title
  url : c.url = x.change.url
  repository : c.repository = x.change.repository
  labels : c.labels = x.change.labels
  prettyTitle : c.prettyTitle =
    String.join (List.replicate x.annotations (auditWords x.change)) ++ x.change.prettyTitle

theorem Entry.isShownAs_shown (x : Entry) : x.IsShownAs x.shown := ⟨rfl, rfl, rfl, rfl, rfl, rfl⟩

/-- An edit looks at nothing that annotations alter. -/
theorem Edit.isKeeping_shown (e d : Edit) (c : Change) :
    e.isKeeping (d.shown c) = e.isKeeping c := by
  rw [shown]
  split
  · cases e <;> rfl
  · rfl

theorem Entry.isKept_shown (e : Edit) (c : Change) (rest : List Edit) :
    isKept ⟨e.shown c, rest⟩ = isKept ⟨c, rest⟩ := by
  simp only [isKept, Edit.isKeeping_shown]

theorem Entry.isKept_cons (c : Change) (e : Edit) (rest : List Edit) :
    isKept ⟨c, e :: rest⟩ = (e.isKeeping c && isKept ⟨c, rest⟩) :=
  List.all_cons

/-- Showing a change as its first edit leaves it and then as the rest do is showing it as all of
them do. -/
theorem Entry.shown_cons (c : Change) (e : Edit) (rest : List Edit) :
    shown ⟨c, e :: rest⟩ = shown ⟨e.shown c, rest⟩ := by
  cases he : e.isAnnotating with
  | false => simp [shown, prettyTitle, annotations, Edit.shown, he]
  | true =>
    have hwords : auditWords (e.shown c) = auditWords c := by
      rw [Edit.shown, if_pos he]
      rfl
    have htitle : (e.shown c).prettyTitle = auditWords c ++ c.prettyTitle := by
      rw [Edit.shown, if_pos he]
      rfl
    have hcount : annotations ⟨c, e :: rest⟩ = annotations ⟨e.shown c, rest⟩ + 1 :=
      List.countP_cons_of_pos he
    have hpretty : prettyTitle ⟨c, e :: rest⟩ = prettyTitle ⟨e.shown c, rest⟩ := by
      simp only [prettyTitle, hcount, hwords, htitle]
      rw [List.replicate_succ', String.join_append, String.append_assoc, String.join_cons,
        String.join_nil, String.append_empty]
    rw [shown, shown, hpretty, Edit.shown, if_pos he]
    rfl

/-- One edit and then the rest treat changes as all of the edits do. -/
theorem map_shown_step (e : Edit) (rest : List Edit) (cs : List Change) :
    ((((cs.filter (e.isKeeping ·)).map e.shown).map (Entry.mk · rest)).filter
        (·.isKept)).map Entry.shown =
      ((cs.map (Entry.mk · (e :: rest))).filter (·.isKept)).map Entry.shown := by
  induction cs with
  | nil => rfl
  | cons c cs ih =>
    cases hkeep : e.isKeeping c with
    | false => simpa [List.filter_cons, hkeep, Entry.isKept_cons] using ih
    | true =>
      cases hkept : Entry.isKept ⟨c, rest⟩ with
      | false =>
        simpa [List.filter_cons, hkeep, hkept, Entry.isKept_cons, Entry.isKept_shown] using ih
      | true =>
        simpa [List.filter_cons, hkeep, hkept, Entry.isKept_cons, Entry.isKept_shown,
          Entry.shown_cons c e rest] using ih

/-- A list after edits has the entries that none of the edits dropped, in order. -/
theorem edited_eq (initial : List Change) (edits : List Edit) :
    edited initial edits = ((entries initial edits).filter (·.isKept)).map Entry.shown := by
  induction edits generalizing initial with
  | nil =>
    have hshown : ∀ c : Change, Entry.shown ⟨c, []⟩ = c := fun c => by
      simp [Entry.shown, Entry.prettyTitle, Entry.annotations]
    have hkept : ∀ c : Change, Entry.isKept ⟨c, []⟩ = true := fun _ => rfl
    have hall : initial.filter (fun _ => true) = initial := List.filter_eq_self.2 fun _ _ => rfl
    simp [edited, entries, entered, List.filter_map, Function.comp_def, hshown, hkept, hall]
  | cons e rest ih =>
    calc edited initial (e :: rest)
        = edited (e.apply initial) rest := rfl
      _ = ((((e.apply initial).map (Entry.mk · rest)).filter (·.isKept)).map Entry.shown) ++
            ((entered rest).filter (·.isKept)).map Entry.shown := by
          rw [ih, entries, List.filter_append, List.map_append]
      _ = (((initial ++ e.entering).map (Entry.mk · (e :: rest))).filter (·.isKept)).map
              Entry.shown ++ ((entered rest).filter (·.isKept)).map Entry.shown := by
          rw [Edit.apply_eq, map_shown_step]
      _ = ((entries initial (e :: rest)).filter (·.isKept)).map Entry.shown := by
          rw [entries, entered, ← List.map_append, ← List.filter_append, List.map_append,
            List.append_assoc]

theorem map_change_entered (edits : List Edit) :
    (entered edits).map (·.change) = edits.flatMap Edit.entering := by
  induction edits with
  | nil => rfl
  | cons e rest ih => simp [entered, ih, Function.comp_def]

theorem map_change_entries (initial : List Change) (edits : List Edit) :
    (entries initial edits).map (·.change) = initial ++ edits.flatMap Edit.entering := by
  simp [entries, map_change_entered, Function.comp_def]

/-- Whatever the edits, no change is made up, doubled or moved, and nothing of a change differs but
the audit states in front of its displayed title, one for each annotating edit since it entered. The
changes that are left are those that no edit since dropped. -/
theorem edited_alters_only_shown_audit (initial : List Change) (edits : List Edit) :
    (entries initial edits).map (·.change) = initial ++ edits.flatMap Edit.entering ∧
      ∃ kept, kept.Sublist (entries initial edits) ∧
        List.Forall₂ Entry.IsShownAs kept (edited initial edits) ∧
        kept = (entries initial edits).filter (·.isKept) := by
  refine ⟨map_change_entries initial edits, _, List.filter_sublist, ?_, rfl⟩
  rw [edited_eq, List.forall₂_map_right_iff, List.forall₂_same]
  exact fun x _ => x.isShownAs_shown

/-- An edit that brings no changes into the list, as any that merges no others in. -/
def Edit.IsClosed (e : Edit) : Prop := e.entering = []

instance (e : Edit) : Decidable e.IsClosed := inferInstanceAs (Decidable (e.entering = []))

theorem entered_of_isClosed {edits : List Edit} (h : ∀ e ∈ edits, e.IsClosed) :
    entered edits = [] := by
  induction edits with
  | nil => rfl
  | cons e rest ih =>
    have he : e.entering = [] := h e List.mem_cons_self
    rw [entered, he, ih fun d hd => h d (List.mem_cons_of_mem e hd)]
    rfl

theorem entries_of_isClosed (initial : List Change) {edits : List Edit}
    (h : ∀ e ∈ edits, e.IsClosed) : entries initial edits = initial.map (⟨·, edits⟩) := by
  rw [entries, entered_of_isClosed h, List.append_nil]

/-- Whether edits keep a change does not depend on their order: none of them looks at what another
one alters. -/
theorem Entry.isKept_perm (c : Change) {edits edits' : List Edit} (h : edits.Perm edits') :
    isKept ⟨c, edits⟩ = isKept ⟨c, edits'⟩ :=
  h.all_eq

theorem Entry.shown_perm (c : Change) {edits edits' : List Edit} (h : edits.Perm edits') :
    shown ⟨c, edits⟩ = shown ⟨c, edits'⟩ := by
  have hcount : annotations ⟨c, edits⟩ = annotations ⟨c, edits'⟩ := h.countP_eq _
  simp only [shown, prettyTitle, hcount]

/-- Edits that bring no changes in can be made in any order: the same changes are left, in the same
order and with the same displayed titles. -/
theorem edited_perm (initial : List Change) {edits edits' : List Edit} (h : edits.Perm edits')
    (hclosed : ∀ e ∈ edits, e.IsClosed) : edited initial edits = edited initial edits' := by
  have hclosed' : ∀ e ∈ edits', e.IsClosed := fun e he => hclosed e (h.mem_iff.2 he)
  rw [edited_eq, edited_eq, entries_of_isClosed initial hclosed,
    entries_of_isClosed initial hclosed']
  simp only [List.filter_map, List.map_map, Function.comp_def, Entry.isKept_perm _ h,
    Entry.shown_perm _ h]

theorem edited_perm_sample :
    let runtime : Change :=
      ⟨11, "Bump weights", "u/11", "o/r", .ofList ["D3-trivial 🧸", "B0"], "Bump weights (#11)"⟩
    let other : Change := ⟨12, "Fix docs", "u/12", "o/r", .ofList ["B1"], "Fix docs (#12)"⟩
    let follower : Change :=
      ⟨13, "Companion for #11", "u/13", "o/r", .ofList ["B0"], "Companion for #11 (#13)"⟩
    let edits := [.annotate, .keep "B0", .merge [] "companion", .annotate]
    let edits' := [.merge [] "companion", .annotate, .annotate, .keep "B0"]
    edits.Perm edits' ∧ (∀ e ∈ edits, e.IsClosed) ∧
      edited [runtime, other, follower] edits = edited [runtime, other, follower] edits' ∧
      edited [runtime, other, follower] edits' =
        [{ runtime with prettyTitle := "✅ `trivial` ✅ `trivial` Bump weights (#11)" }] :=
  have hperm := by decide
  have hclosed := by decide
  ⟨hperm, hclosed, edited_perm _ hperm hclosed, by decide +kernel⟩

end ReleaseBulletin.Change.Editing

import ReleaseBulletin.Proofs.Change.Editing

/-!
Sorting changes into the buckets of a changelog. A bucket has the changes with its label and looks at
no other one; the changes to the runtime show the audit state of the first audit label they carry;
the priority is the greatest one that a change to the client carries. Changelogs of two lists of
changes make up the changelog of both.
-/
namespace ReleaseBulletin.Change
open Changelog Editing Priority

/-- What labels say of the audit: the state of the first of the table's labels that is among them,
and nothing without any. -/
inductive Audit.IsStated (labels : Labels) : Audit.Status → Prop
  | first {before after : List (String × Audit.Status)} {entry : String × Audit.Status}
      (table : Audit.statusLabels = before ++ entry :: after) (present : entry.1 ∈ labels)
      (absent : ∀ earlier ∈ before, earlier.1 ∉ labels) : IsStated labels entry.2
  | unknown (absent : ∀ entry ∈ Audit.statusLabels, entry.1 ∉ labels) : IsStated labels .unknown

theorem Audit.isStated_status (labels : Labels) : IsStated labels (status labels) := by
  rw [status]
  split
  · next entry h =>
    obtain ⟨hpresent, before, after, htable, habsent⟩ := List.find?_eq_some_iff_append.1 h
    exact .first htable (of_decide_eq_true hpresent) fun earlier he => by
      simpa using habsent earlier he
  · next h => exact .unknown fun entry he => by simpa using List.find?_eq_none.1 h entry he

theorem Audit.status_eq_iff {labels : Labels} {s : Status} :
    status labels = s ↔ IsStated labels s := by
  refine ⟨fun h => h ▸ isStated_status labels, fun h => ?_⟩
  cases h with
  | @first before after entry table present absent =>
    have hfind : statusLabels.find? (fun entry => decide (entry.1 ∈ labels)) = some entry :=
      List.find?_eq_some_iff_append.2
        ⟨decide_eq_true present, before, after, table, fun e he => by simpa using absent e he⟩
    rw [status, hfind]
  | unknown absent =>
    have hfind : statusLabels.find? (fun entry => decide (entry.1 ∈ labels)) = none :=
      List.find?_eq_none.2 fun e he => by simpa using absent e he
    rw [status, hfind]

/-- Some change carries the priority's label. -/
def Priority.IsCarried (p : Priority) (changes : List Change) : Prop :=
  ∃ c ∈ changes, p.label ∈ c.labels

/-- The priority that changes call for: the greatest one that they carry, and the lowest of all if
they carry none. -/
structure Priority.IsDueTo (p : Priority) (changes : List Change) : Prop where
  listed : p ∈ priorities
  greatest : ∀ q ∈ priorities, q.IsCarried changes → q.value ≤ p.value
  carried : p.IsCarried changes ∨ ∀ q ∈ priorities, ¬ q.IsCarried changes ∧ p.value ≤ q.value

/-- The greater of two priorities. -/
def Priority.greater (p q : Priority) : Priority := if p.value ≤ q.value then q else p

theorem Priority.ascending_priorities : priorities.Pairwise fun p q => p.value < q.value := by
  decide

theorem Priority.eq_of_value_eq :
    ∀ p ∈ priorities, ∀ q ∈ priorities, p.value = q.value → p = q := by
  decide

theorem Priority.isCarried_append {p : Priority} {xs ys : List Change} :
    p.IsCarried (xs ++ ys) ↔ p.IsCarried xs ∨ p.IsCarried ys := by
  simp only [IsCarried, List.mem_append, or_and_right, exists_or]

theorem Priority.isCarried_iff {p : Priority} {changes : List Change} :
    (changes.any fun c => c.hasLabel p.label) = true ↔ p.IsCarried changes := by
  simp [IsCarried, hasLabel]

theorem Priority.isDueTo_highest (changes : List Change) : (highest changes).IsDueTo changes := by
  rw [highest]
  cases h : priorities.reverse.find? fun p => changes.any (·.hasLabel p.label) with
  | none =>
    have hnone : ∀ q ∈ priorities, ¬ q.IsCarried changes := fun q hq => by
      rw [← isCarried_iff]
      exact List.find?_eq_none.1 h q (List.mem_reverse.2 hq)
    have hlow : ∀ q ∈ priorities, low.value ≤ q.value := by decide
    exact ⟨List.mem_cons_self, fun q hq hc => absurd hc (hnone q hq),
      .inr fun q hq => ⟨hnone q hq, hlow q hq⟩⟩
  | some p =>
    obtain ⟨hcarried, before, after, hlist, habsent⟩ := List.find?_eq_some_iff_append.1 h
    have hdescending := List.pairwise_reverse.2 ascending_priorities
    rw [hlist] at hdescending
    refine ⟨List.mem_reverse.1 (hlist ▸ by simp), fun q hq hc => ?_, .inl (isCarried_iff.1 hcarried)⟩
    have hmem : q ∈ before ++ p :: after := hlist ▸ List.mem_reverse.2 hq
    rcases List.mem_append.1 hmem with hbefore | hrest
    · have := habsent q hbefore
      simp [isCarried_iff.2 hc] at this
    · rcases List.mem_cons.1 hrest with rfl | hafter
      · exact Nat.le_refl _
      · exact Nat.le_of_lt (List.rel_of_pairwise_cons (List.pairwise_append.1 hdescending).2.1 hafter)

theorem Priority.IsDueTo.unique {p q : Priority} {changes : List Change} (hp : p.IsDueTo changes)
    (hq : q.IsDueTo changes) : p = q := by
  refine eq_of_value_eq p hp.listed q hq.listed ?_
  rcases hp.carried with hpc | hpn
  · rcases hq.carried with hqc | hqn
    · exact Nat.le_antisymm (hq.greatest p hp.listed hpc) (hp.greatest q hq.listed hqc)
    · exact absurd hpc (hqn p hp.listed).1
  · rcases hq.carried with hqc | hqn
    · exact absurd hqc (hpn q hq.listed).1
    · exact Nat.le_antisymm (hpn q hq.listed).2 (hqn p hp.listed).2

theorem Priority.highest_eq_iff {p : Priority} {changes : List Change} :
    highest changes = p ↔ p.IsDueTo changes :=
  ⟨fun h => h ▸ isDueTo_highest changes, fun h => (isDueTo_highest changes).unique h⟩

theorem Priority.IsDueTo.congr {p : Priority} {xs ys : List Change}
    (h : ∀ q : Priority, q.IsCarried xs ↔ q.IsCarried ys) (hp : p.IsDueTo xs) : p.IsDueTo ys := by
  obtain ⟨listed, greatest, carried⟩ := hp
  simp only [h] at greatest carried
  exact ⟨listed, greatest, carried⟩

theorem Priority.highest_perm {xs ys : List Change} (h : xs.Perm ys) :
    highest xs = highest ys := by
  refine highest_eq_iff.2 ((isDueTo_highest ys).congr fun q => ?_)
  simp only [IsCarried, h.mem_iff]

theorem Priority.IsDueTo.append_of_le {p q : Priority} {xs ys : List Change} (hp : p.IsDueTo xs)
    (hq : q.IsDueTo ys) (h : p.value ≤ q.value) : q.IsDueTo (xs ++ ys) := by
  refine ⟨hq.listed, fun r hr hc => ?_, ?_⟩
  · rcases isCarried_append.1 hc with hxs | hys
    · exact Nat.le_trans (hp.greatest r hr hxs) h
    · exact hq.greatest r hr hys
  · rcases hq.carried with hys | hnone
    · exact .inl (isCarried_append.2 (.inr hys))
    · -- Nothing calls for `q`, so it is the lowest one, and `p` with it.
      have hpq : p = q := eq_of_value_eq p hp.listed q hq.listed
        (Nat.le_antisymm h (hnone p hp.listed).2)
      subst hpq
      rcases hp.carried with hxs | hnone'
      · exact .inl (isCarried_append.2 (.inl hxs))
      · refine .inr fun r hr => ⟨fun hc => ?_, (hnone r hr).2⟩
        rcases isCarried_append.1 hc with hxs | hys
        · exact (hnone' r hr).1 hxs
        · exact (hnone r hr).1 hys

theorem Priority.highest_append (xs ys : List Change) :
    highest (xs ++ ys) = greater (highest xs) (highest ys) := by
  have hxs := isDueTo_highest xs
  have hys := isDueTo_highest ys
  rw [greater]
  split
  · next hle => exact highest_eq_iff.2 (hxs.append_of_le hys hle)
  · next hgt =>
    rw [highest_perm List.perm_append_comm]
    exact highest_eq_iff.2 (hys.append_of_le hxs (by omega))

/-- The changelog of two lists of changes, the second one after the first. -/
def Changelog.append (a b : Changelog) : Changelog where
  releaseNotes := a.releaseNotes ++ b.releaseNotes
  client := a.client ++ b.client
  runtime := a.runtime ++ b.runtime
  priority := greater a.priority b.priority

theorem Changelog.withLabel_append (xs ys : List Change) (label : String) :
    withLabel (xs ++ ys) label = withLabel xs label ++ withLabel ys label :=
  List.filter_append ..

theorem Changelog.classify_append (xs ys : List Change) (labels : BucketLabels) :
    classify (xs ++ ys) labels = (classify xs labels).append (classify ys labels) := by
  simp only [classify, append, withLabel_append, List.map_append, highest_append]

/-- How a bucket shows a change. -/
def Editing.Bucket.shown : Bucket → Change → Change
  | .releaseNotes => id
  | .client => id
  | .runtime => Audit.annotate

theorem Editing.Bucket.changes_classify (bucket : Bucket) (changes : List Change)
    (labels : BucketLabels) :
    bucket.changes (classify changes labels) =
      (withLabel changes (bucket.label labels)).map bucket.shown := by
  cases bucket with
  | releaseNotes => exact (List.map_id _).symm
  | client => exact (List.map_id _).symm
  | runtime => rfl

/-- A change and the labels that it is given in place of its own. -/
structure Relabelling where
  change : Change
  labels : Labels
  deriving DecidableEq, Repr

def Relabelling.relabelled (x : Relabelling) : Change := { x.change with labels := x.labels }

/-- The change keeps the label, or still lacks it. -/
def Relabelling.Respects (x : Relabelling) (label : String) : Prop :=
  label ∈ x.labels ↔ label ∈ x.change.labels

theorem Changelog.withLabel_relabelled {xs : List Relabelling} {label : String}
    (h : ∀ x ∈ xs, x.Respects label) :
    withLabel (xs.map (·.relabelled)) label =
      (xs.filter fun x => x.change.hasLabel label).map (·.relabelled) := by
  rw [withLabel, List.filter_map]
  congr 1
  refine List.filter_congr fun x hx => ?_
  exact decide_eq_decide.2 (h x hx)

/-- What sorting changes into buckets does, whatever labels the buckets have, be they the same. The
buckets are the changes with their labels, in order; only those to the runtime differ, by the audit
state in front of the displayed title. The priority is the one that the changes to the client call
for. Lists can be sorted one by one, their order does not matter to the priority, and no other label
than the bucket's own decides which changes are in it. -/
theorem classify_sorts_by_label (changes : List Change) (labels : BucketLabels) :
    let log := classify changes labels
    (log.releaseNotes = changes.filter (fun c => decide (labels.releaseNotes ∈ c.labels)) ∧
      log.client = changes.filter (fun c => decide (labels.client ∈ c.labels)) ∧
      log.runtime = (changes.filter fun c => decide (labels.runtime ∈ c.labels)).map fun c =>
        { c with prettyTitle := (Audit.status c.labels).heading ++ " " ++ c.prettyTitle }) ∧
    (∀ carried s, Audit.status carried = s ↔ Audit.IsStated carried s) ∧
    (∀ p, log.priority = p ↔ p.IsDueTo log.client) ∧
    (∀ others, classify (changes ++ others) labels = log.append (classify others labels)) ∧
    (∀ others, changes.Perm others → (classify others labels).priority = log.priority) ∧
    ∀ (xs : List Relabelling) (bucket : Bucket),
      (∀ x ∈ xs, x.Respects (bucket.label labels)) →
      let kept := xs.filter fun x => x.change.hasLabel (bucket.label labels)
      bucket.changes (classify (xs.map (·.change)) labels) =
          kept.map (fun x => bucket.shown x.change) ∧
        bucket.changes (classify (xs.map (·.relabelled)) labels) =
          kept.map (fun x => bucket.shown x.relabelled) := by
  intro log
  refine ⟨⟨rfl, rfl, rfl⟩, fun carried s => Audit.status_eq_iff, fun p => highest_eq_iff,
    fun others => classify_append changes others labels, fun others h => ?_,
    fun xs bucket h => ?_⟩
  · have hclient : (withLabel others labels.client).Perm (withLabel changes labels.client) :=
      (h.filter _).symm
    exact highest_perm hclient
  · intro kept
    have hkept : withLabel (xs.map (·.change)) (bucket.label labels) = kept.map (·.change) :=
      List.filter_map
    rw [bucket.changes_classify, bucket.changes_classify, withLabel_relabelled h, hkept,
      List.map_map, List.map_map]
    exact ⟨rfl, rfl⟩

/-- Two changes to the client and the runtime, in either order: the priority stays high. Without its
label for an audit, the second one is in the same buckets and shows another audit state. -/
theorem classify_two_changes :
    let labels : BucketLabels := ⟨"N", "C", "R"⟩
    let a : Change := ⟨1, "a", "u", "o/r", .ofList ["C", "C7-high ❗️"], "a"⟩
    let b : Change := ⟨2, "b", "u", "o/r", .ofList ["C", "R", "D9-needsaudit 👮"], "b"⟩
    let x : Relabelling := ⟨a, a.labels⟩
    let y : Relabelling := ⟨b, .ofList ["C", "R"]⟩
    [a, b].Perm [b, a] ∧ x.Respects "R" ∧ y.Respects "R" ∧
      (classify [b, a] labels).priority = .high ∧
      (classify [a, b] labels).runtime = [Audit.annotate b] ∧
      (classify [a, y.relabelled] labels).runtime = [Audit.annotate y.relabelled] := by
  intro labels a b x y
  have hperm : [a, b].Perm [b, a] := .swap b a []
  have hx : x.Respects "R" := Iff.rfl
  have hy : y.Respects "R" := by
    simp only [Relabelling.Respects, y, b, Labels.mem_ofList]
    decide
  obtain ⟨-, -, -, -, hpriority, hbuckets⟩ := classify_sorts_by_label [a, b] labels
  obtain ⟨hbefore, hafter⟩ := hbuckets [x, y] .runtime (by simpa using ⟨hx, hy⟩)
  have hkept : [x, y].filter (fun x => x.change.hasLabel "R") = [y] := by decide +kernel
  refine ⟨hperm, hx, hy, (hpriority [b, a] hperm).trans (by decide +kernel), ?_, ?_⟩
  · exact hbefore.trans (congrArg _ hkept)
  · exact hafter.trans (congrArg _ hkept)

end ReleaseBulletin.Change

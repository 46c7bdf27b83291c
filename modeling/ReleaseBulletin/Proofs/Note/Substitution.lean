import Mathlib.Data.List.Forall2
import ReleaseBulletin.Proofs.Note.Printed
import ReleaseBulletin.Proofs.Template.Substitution

/-!
Release notes by templates that substitute only. The text of such a note is the template with the
holes filled in; a hole that nothing can fill is a fault of its line.
-/
namespace ReleaseBulletin.Note
open Template Template.Access Template.Evaluator Template.Scope Template.Substitution

/-- The value at the end of a path through fields of records and members of objects, which are
records as well. -/
inductive Reaches : Value → List String → Value → Prop
  | here (v : Value) : Reaches v [] v
  | member {fields : List (String × Value)} {name : String} {names : List String} {w v : Value}
      (h : fields.lookup name = some w) (hw : Reaches w names v) :
      Reaches (Renderer.record fields) (name :: names) v

theorem record_injective {fields fields' : List (String × Value)}
    (h : Renderer.record fields = Renderer.record fields') : fields = fields' := by
  refine List.map_injective_iff.2 (fun p q hpq => ?_) (Value.map.inj h)
  obtain ⟨hname, hvalue⟩ := Prod.mk.inj hpq
  exact Prod.ext (Value.text.inj hname) hvalue

theorem reaches_record_iff {fields : List (String × Value)} {name : String} {names : List String}
    {v : Value} : Reaches (Renderer.record fields) (name :: names) v ↔
      ∃ w, fields.lookup name = some w ∧ Reaches w names v := by
  refine ⟨fun h => ?_, fun ⟨w, h, hw⟩ => .member h hw⟩
  generalize hrecord : Renderer.record fields = u at h
  cases h with
  | member h hw =>
    obtain rfl := record_injective hrecord
    exact ⟨_, h, hw⟩

/-- A value that can be written, and whose members, if it has any, are such values. -/
inductive IsData : Value → Prop
  | none : IsData .none
  | boolean (b : Bool) : IsData (.boolean b)
  | integer (i : Int) : IsData (.integer i)
  | decimal (x : Float) : IsData (.decimal x)
  | text (s : String) : IsData (.text s)
  | list (items : List Value) : IsData (.list items)
  | record {fields : List (String × Value)} (h : ∀ p ∈ fields, IsData p.2) :
      IsData (Renderer.record fields)

theorem isData_context (n : Note) : IsData (Renderer.record (Renderer.context n)) := by
  have hoptional : ∀ o, IsData (Renderer.optionalText o) := fun o => by
    cases o with
    | none => exact .none
    | some s => exact .text s
  have hpriority : IsData (Renderer.ofPriority n.priority) := by
    refine .record ?_
    simp only [List.forall_mem_cons]
    exact ⟨.integer _, .text _, .text _, .text _, nofun⟩
  refine .record ?_
  simp only [Renderer.context, List.forall_mem_cons]
  exact ⟨.text _, .text _, hoptional _, .text _, .text _, .text _, hoptional _, hoptional _,
    .boolean _, hpriority, .list _, .list _, .list _, .list _, nofun⟩

theorem IsData.write {v : Value} (h : IsData v) : Operator.write v = .ok v.display := by
  cases h <;> rfl

theorem IsData.of_lookup {fields : List (String × Value)} {name : String} {w : Value}
    (h : IsData (Renderer.record fields)) (hw : fields.lookup name = some w) : IsData w := by
  generalize hrecord : Renderer.record fields = u at h
  cases h with
  | record h =>
    obtain rfl := record_injective hrecord
    obtain ⟨before, after, rfl, -⟩ := List.lookup_eq_some_iff.1 hw
    exact h (name, w) (by simp)
  | _ => cases hrecord

theorem IsData.of_reaches {v w : Value} {names : List String} (h : IsData v)
    (hw : Reaches v names w) : IsData w := by
  induction hw with
  | here v => exact h
  | member hlookup _ ih => exact ih (h.of_lookup hlookup)

theorem member_record (fields : List (String × Value)) (name : String) :
    member (Renderer.record fields) name = .ok ((fields.lookup name).getD (.undefined false)) := by
  rw [Renderer.record, member, member?, Order.lookup?_texts]
  cases fields.lookup name <;> rfl

/-- What is at the end of a path is what members of members lead to. -/
theorem Reaches.walk_eq {v w : Value} {names : List String} (h : Reaches v names w) (line : Nat) :
    walk line v names = .ok w := by
  induction h with
  | here v => rfl
  | member hlookup _ ih =>
    rw [walk, member_record, hlookup]
    exact ih

/-- What members of members lead to, written in the line of the path. -/
def printedAt (line : Nat) (v : Value) (names : List String) : Except Trouble String :=
  walk line v names >>= fun w => onLine line (Operator.write w)

theorem printedAt_of_reaches {v w : Value} {names : List String} (hv : IsData v)
    (h : Reaches v names w) (line : Nat) : printedAt line v names = .ok w.display := by
  change (walk line v names >>= fun w => onLine line (Operator.write w)) = _
  rw [h.walk_eq line]
  change onLine line (Operator.write w) = _
  rw [(hv.of_reaches h).write]
  rfl

theorem printedAt_undefined (line : Nat) (names : List String) :
    printedAt line (.undefined false) names = .error ⟨.undefinedValue, line⟩ := by
  cases names <;> rfl

theorem printedAt_of_unreached {v : Value} {names : List String} (hv : IsData v)
    (h : ∀ w, ¬ Reaches v names w) (line : Nat) :
    printedAt line v names = .error ⟨.undefinedValue, line⟩ := by
  induction names generalizing v with
  | nil => exact absurd (.here v) (h v)
  | cons name names ih =>
    cases hv with
    | @record fields hfields =>
      have hstep : printedAt line (Renderer.record fields) (name :: names) =
          printedAt line ((fields.lookup name).getD (.undefined false)) names := by
        rw [printedAt, walk, member_record]
        rfl
      rw [hstep]
      cases hlookup : fields.lookup name with
      | none => exact printedAt_undefined line names
      | some w =>
        exact ih ((IsData.record hfields).of_lookup hlookup) fun u hu => h u (.member hlookup hu)
    | _ => exact printedAt_undefined line names

section Printing

variable (n : Note)

/-- The value of a hole in a note. -/
def Fills (h : Hole) (v : Value) : Prop :=
  Reaches (Renderer.record (Renderer.context n)) (h.path.base :: h.path.members) v

/-- What a hole prints in a line. -/
def printedIn (line : Nat) (h : Hole) : Except Trouble String :=
  printedAt line (((Renderer.context n).lookup h.path.base).getD (.undefined false)) h.path.members

theorem lookup?_atTop (h : Hole) {s : State} (hs : Standard.AtTop n s) :
    s.lookup? h.path.base = (Renderer.context n).lookup h.path.base := by
  cases hvalue : (Renderer.context n).lookup h.path.base with
  | some v => exact Standard.AtTop.lookup? n hs hvalue
  | none =>
    have hframe : (Standard.frame n).lookup? s.memories h.path.base = none := by
      rw [← hvalue, ← Order.lookup?_texts]
      rfl
    have hcall : (Standard.frame n).isCall = false := rfl
    simp [State.lookup?, hs.frames_eq, hframe, hcall, h.free]

theorem gives_hole (invoke : Invoke) (line : Nat) (h : Hole) :
    Gives (Standard.AtTop n) (node invoke (.print line (h.path.expr line))) (printedIn n line h)
      (Standard.AtTop n) := by
  have hbase : Gives (Standard.AtTop n) (value invoke (.variable h.path.base))
      (.ok (((Renderer.context n).lookup h.path.base).getD (.undefined false)))
      (Standard.AtTop n) := by
    intro s hs
    refine ⟨s, ?_, hs⟩
    change Except.ok ((s.lookup? h.path.base).getD (.undefined false), s) = _
    rw [lookup?_atTop n h hs]
  have hspaces : ∀ s, Standard.AtTop n s → s.spaces = [] := fun _ hs => hs.spaces_eq
  exact gives_print hspaces (gives_members hspaces hbase h.path.members)

theorem printedIn_eq (line : Nat) (h : Hole) :
    printedIn n line h =
      printedAt line (Renderer.record (Renderer.context n)) (h.path.base :: h.path.members) := by
  rw [printedAt, walk, member_record]
  rfl

end Printing

/-- What a part of a template prints in a note: a literal its own text, a hole its value. -/
inductive Prints (n : Note) : Part → String → Prop
  | literal (s : String) (plain : '{' ∉ s.toList) : Prints n (.literal s plain) s
  | hole {h : Hole} {v : Value} (filled : Fills n h v) : Prints n (.hole h) v.display

theorem not_mem_path (d : Dotted) : '\n' ∉ d.text := by
  have hname : ∀ s, Token.isName s = true → '\n' ∉ s.toList := fun s hs => by
    obtain ⟨c, cs, hcs, hc, htail⟩ := Token.exists_of_isName hs
    rw [hcs, List.mem_cons, not_or]
    exact ⟨(Token.ne_of_startsName hc rfl).symm, fun h => Bool.false_ne_true (htail _ h)⟩
  rw [Dotted.text, List.mem_append, not_or]
  refine ⟨hname _ d.isName_base, fun h => ?_⟩
  obtain ⟨s, hs, hmem⟩ := List.mem_flatMap.1 h
  rcases List.mem_cons.1 hmem with hdot | hmem
  · cases hdot
  · exact hname s (d.isName_members s hs) hmem

theorem lineEnds_source_cons (p : Part) (parts : List Part) :
    lineEnds (source (p :: parts)) = lineEnds p.source + lineEnds (source parts) := by
  rw [source_cons, lineEnds, String.toList_append, List.count_append, lineEnds, lineEnds]

theorem lineEnds_hole (h : Hole) : lineEnds (Part.hole h).source = 0 := by
  have hpath := List.count_eq_zero.2 (not_mem_path h.path)
  simp [lineEnds, Part.source, hpath]

section Parts

variable {n : Note}

theorem printedIn_of_fills {h : Hole} {v : Value} (hv : Fills n h v) (line : Nat) :
    printedIn n line h = .ok v.display := by
  rw [printedIn_eq, printedAt_of_reaches (isData_context n) hv]

theorem printedIn_of_unfilled {h : Hole} (hh : ¬ ∃ s, Prints n (.hole h) s) (line : Nat) :
    printedIn n line h = .error ⟨.undefinedValue, line⟩ := by
  rw [printedIn_eq]
  exact printedAt_of_unreached (isData_context n) (fun v hv => hh ⟨_, .hole hv⟩) line

theorem writtenParts_of_prints {parts : List Part} {texts : List String}
    (h : List.Forall₂ (Prints n) parts texts) (line : Nat) :
    writtenParts (printedIn n) line parts = .ok (String.join texts) := by
  induction h generalizing line with
  | nil => rfl
  | cons hp _ ih =>
    rw [String.join_cons]
    cases hp with
    | literal s plain =>
      rw [writtenParts, ih]
      rfl
    | hole filled =>
      rw [writtenParts, printedIn_of_fills filled, ih]
      rfl

/-- Parts that print something come to the hole after them. -/
theorem writtenParts_of_unfilled {before after : List Part} {h : Hole}
    (hbefore : ∀ p ∈ before, ∃ s, Prints n p s) (hh : ¬ ∃ s, Prints n (.hole h) s) (line : Nat) :
    writtenParts (printedIn n) line (before ++ .hole h :: after) =
      .error ⟨.undefinedValue, line + lineEnds (source before)⟩ := by
  induction before generalizing line with
  | nil =>
    rw [List.nil_append, writtenParts, printedIn_of_unfilled hh]
    rfl
  | cons p before ih =>
    rw [List.forall_mem_cons] at hbefore
    rw [List.cons_append, lineEnds_source_cons]
    obtain ⟨s, hp⟩ := hbefore.1
    cases hp with
    | literal s plain =>
      rw [writtenParts, ih hbefore.2, Part.source, Nat.add_assoc]
      rfl
    | hole filled =>
      rw [writtenParts, printedIn_of_fills filled, ih hbefore.2, lineEnds_hole, Nat.zero_add]
      rfl

end Parts

namespace Renderer

theorem render_writtenParts (parts : List Part) :
    ∃ r, ofTemplate (source parts) = .ok r ∧
      ∀ n, r.render n = (writtenParts (printedIn n) 1 parts).mapError failure := by
  refine ⟨_, by rw [ofTemplate, ofTemplate?_source], fun n => ?_⟩
  rw [render, render_source fun line h => gives_hole n _ line h]
  cases writtenParts (printedIn n) 1 parts <;> rfl

/-- A template of texts and holes can be read. If every hole has a value in a note, the text of the
note is the texts and the values, one after the other; otherwise it is an undefined value in the
line of the first hole without one, or in the last line that can be told. -/
theorem render_substitutes (parts : List Part) :
    ∃ r, ofTemplate (source parts) = .ok r ∧ ∀ n : Note,
      (∀ texts, List.Forall₂ (Prints n) parts texts → r.render n = .ok (String.join texts)) ∧
      ∀ before h after, parts = before ++ .hole h :: after →
        (∀ p ∈ before, ∃ s, Prints n p s) → (¬ ∃ s, Prints n (.hole h) s) →
        r.render n =
          .error (.rendering .undefinedValue (min (1 + lineEnds (source before)) lastLine)) := by
  obtain ⟨r, hr, hrender⟩ := render_writtenParts parts
  refine ⟨r, hr, fun n => ⟨fun texts h => ?_, fun before h after hparts hbefore hh => ?_⟩⟩
  · rw [hrender, writtenParts_of_prints h]
    rfl
  · rw [hrender, hparts, writtenParts_of_unfilled hbefore hh]
    rfl

namespace Sample

def version : Hole := ⟨Standard.version, by decide⟩

def priority : Hole := ⟨Standard.priorityLabel, by decide⟩

/-- A hole for a member that texts do not have. -/
def unfilled : Hole := ⟨.ofNames "version" ["major"] rfl, by decide⟩

theorem not_prints_unfilled (n : Note) : ¬ ∃ s, Prints n (.hole unfilled) s := by
  rintro ⟨s, hs⟩
  cases hs with
  | hole filled =>
    obtain ⟨w, hw, hreaches⟩ := reaches_record_iff.1 filled
    obtain rfl : .text n.version = w := Option.some.inj hw
    cases hreaches

/-- Ended lines with nothing in them. -/
def blankLines (count : Nat) : Part :=
  .literal (String.ofList (List.replicate count '\n')) fun h => by
    rw [String.toList_ofList] at h
    exact absurd (List.eq_of_mem_replicate h) (by decide)

theorem lineEnds_blankLines (count : Nat) : lineEnds (source [blankLines count]) = count := by
  rw [lineEnds_source_cons, blankLines, Part.source, lineEnds, String.toList_ofList,
    List.count_replicate_self]
  rfl

end Sample

/-- What a value holds is no template, and the texts keep their line ends. -/
theorem render_substitutes_sample :
    let n : Note := { sample with version := "\x7b\x7b x \x7d\x7d" }
    let filled : List Part :=
      [.literal "A\r\n" (by decide), .hole Sample.version, .literal "\n\n" (by decide),
        .hole Sample.priority, .literal "\n" (by decide)]
    (∃ r, ofTemplate (source filled) = .ok r ∧
      r.render n = .ok "A\r\n\x7b\x7b x \x7d\x7d\n\nC1-low 📌\n") ∧
    ∃ r, ofTemplate (source (filled ++ [.hole Sample.unfilled])) = .ok r ∧
      r.render n = .error (.rendering .undefinedValue 5) := by
  intro n filled
  have hversion : Fills n Sample.version (.text "\x7b\x7b x \x7d\x7d") := .member rfl (.here _)
  have hlabel : Reaches (ofPriority .low) ["label"] (.text "C1-low 📌") := .member rfl (.here _)
  have hpriority : Fills n Sample.priority (.text "C1-low 📌") := .member rfl hlabel
  have hprints : List.Forall₂ (Prints n) filled
      ["A\r\n", "\x7b\x7b x \x7d\x7d", "\n\n", "C1-low 📌", "\n"] :=
    .cons (.literal _ _) (.cons (.hole hversion) (.cons (.literal _ _)
      (.cons (.hole hpriority) (.cons (.literal _ _) .nil))))
  obtain ⟨r, hr, hrender⟩ := render_substitutes filled
  obtain ⟨r', hr', hrender'⟩ := render_substitutes (filled ++ [.hole Sample.unfilled])
  have hbefore : ∀ p ∈ filled, ∃ s, Prints n p s := by
    simp only [filled, List.forall_mem_cons]
    exact ⟨⟨_, .literal _ _⟩, ⟨_, .hole hversion⟩, ⟨_, .literal _ _⟩, ⟨_, .hole hpriority⟩,
      ⟨_, .literal _ _⟩, List.forall_mem_nil _⟩
  have hline : min (1 + lineEnds (source filled)) lastLine = 5 := by decide +kernel
  refine ⟨⟨r, hr, (hrender n).1 _ hprints⟩, r', hr', ?_⟩
  rw [← hline]
  exact (hrender' n).2 filled Sample.unfilled [] rfl hbefore (Sample.not_prints_unfilled n)

/-- After 65535 line ends the line is no longer told. -/
theorem render_past_last_line :
    let before := [Sample.blankLines 65535]
    (∀ p ∈ before, ∃ s, Prints sample p s) ∧ (¬ ∃ s, Prints sample (.hole Sample.unfilled) s) ∧
      1 + lineEnds (source before) = 65536 ∧
      ∃ r, ofTemplate (source (before ++ [.hole Sample.unfilled])) = .ok r ∧
        r.render sample = .error (.rendering .undefinedValue 65535) ∧
        r.render sample ≠ .error (.rendering .undefinedValue (1 + lineEnds (source before))) := by
  intro before
  have hbefore : ∀ p ∈ before, ∃ s, Prints sample p s :=
    List.forall_mem_singleton.2 ⟨_, .literal _ _⟩
  have hunfilled := Sample.not_prints_unfilled sample
  have hends : lineEnds (source before) = 65535 := Sample.lineEnds_blankLines 65535
  obtain ⟨r, hr, hrender⟩ := render_writtenParts (before ++ [.hole Sample.unfilled])
  have herror : r.render sample = .error (.rendering .undefinedValue 65535) := by
    rw [hrender, writtenParts_of_unfilled hbefore hunfilled, hends]
    rfl
  refine ⟨hbefore, hunfilled, by rw [hends], r, hr, herror, ?_⟩
  rw [herror, hends]
  exact fun h => by cases h

end Renderer

end ReleaseBulletin.Note

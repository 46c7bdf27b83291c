import ReleaseBulletin.Proofs.Template.Blocks
import ReleaseBulletin.Proofs.Template.Tags
import ReleaseBulletin.Proofs.Template.Writing

/-!
Templates that substitute only: texts, and holes for what is at the end of a path. They are read
whatever the texts and paths, and what they write is the texts, as they are, and what each hole
prints, up to the first one that prints nothing.
-/
namespace ReleaseBulletin.Template.Substitution
open Scope Evaluator

/-- A path whose first name stands for nothing of the engine's own. -/
structure Hole where
  path : Dotted
  free : path.base ∉ functionNames

/-- A part of a template: a text that opens no tag, or a hole. -/
inductive Part where
  | literal (text : String) (plain : '{' ∉ text.toList)
  | hole (h : Hole)

def Part.source : Part → String
  | .literal s _ => s
  | .hole h => "\x7b\x7b " ++ String.ofList h.path.text ++ " \x7d\x7d"

/-- The template with the parts. -/
def source (parts : List Part) : String := String.join (parts.map Part.source)

theorem source_cons (p : Part) (parts : List Part) :
    source (p :: parts) = p.source ++ source parts := by
  rw [source, source, List.map_cons, String.join_cons]

/-- The number of lines that end in a text. -/
def lineEnds (s : String) : Nat := s.toList.count '\n'

/-- The text before the first hole, and the holes, each with the text after it. -/
def grouped : List Part → List Char × List (Hole × List Char)
  | [] => ([], [])
  | .literal s _ :: parts => (s.toList ++ (grouped parts).1, (grouped parts).2)
  | .hole h :: parts => ([], (h, (grouped parts).1) :: (grouped parts).2)

def Hole.tag (h : Hole) : Piece.Tag :=
  .hole (String.ofList h.path.text) h.path (String.toList_ofList).symm

theorem plain_grouped (parts : List Part) :
    '{' ∉ (grouped parts).1 ∧ ∀ x ∈ (grouped parts).2, '{' ∉ x.2 := by
  induction parts with
  | nil => simp [grouped]
  | cons p parts ih =>
    cases p with
    | literal s plain => exact ⟨by simp [grouped, plain, ih.1], ih.2⟩
    | hole h => exact ⟨by simp [grouped], List.forall_mem_cons.2 ⟨ih.1, ih.2⟩⟩

theorem toList_source (parts : List Part) :
    (source parts).toList =
      (grouped parts).1 ++ Piece.tagsText ((grouped parts).2.map fun x => (x.1.tag, x.2)) := by
  induction parts with
  | nil => rfl
  | cons p parts ih =>
    rw [source_cons, String.toList_append, ih]
    cases p with
    | literal s plain => simp [grouped, Part.source]
    | hole h =>
      simp [grouped, Part.source, Piece.tagsText, Piece.Tag.text, Hole.tag, Piece.Tag.hole,
        Piece.Tag.printing, Piece.Kind.opening, Piece.Kind.closing]

def textNodes (cs : List Char) : List Node := if cs.isEmpty then [] else [.text (String.ofList cs)]

/-- The nodes of a text that starts in a line and of the holes after it. -/
def nodesFrom : Nat → List Char → List (Hole × List Char) → List Node
  | _, lead, [] => textNodes lead
  | line, lead, (h, after) :: holes =>
    let start := line + lead.count '\n'
    textNodes lead ++ .print start (h.path.expr start) :: nodesFrom start after holes

theorem reads_text {room : Nat} {ps : List Piece} {ns : List Node} (cs : List Char)
    (h : Reader.Reads room ps ns) :
    Reader.Reads room (Piece.textPiece cs ++ ps) (textNodes cs ++ ns) := by
  rw [Piece.textPiece, textNodes]
  split
  · exact h
  · exact .text _ h

/-- Holes take away nothing of the texts around them. -/
theorem reads_nodesFrom (room : Nat) (fresh : Bool) (line : Nat) (lead : List Char)
    (holes : List (Hole × List Char)) :
    Reader.Reads (room + 2) (Piece.cut fresh line lead (holes.map fun x => (x.1.tag, x.2)))
      (nodesFrom line lead holes) := by
  induction holes generalizing fresh line lead with
  | nil =>
    have h := reads_text lead (.nil : Reader.Reads (room + 2) [] [])
    rwa [List.append_nil, List.append_nil] at h
  | cons x holes ih => exact reads_text lead (.hole x.1.path _ (ih _ _ _))

/-- Every template that substitutes only can be read. -/
theorem ofTemplate?_source (parts : List Part) :
    Reader.ofTemplate? (source parts) =
      some (nodesFrom 1 (grouped parts).1 (grouped parts).2) := by
  have hplain := plain_grouped parts
  refine Reader.Reads.ofTemplate? (Piece.ofTemplate?_cut (toList_source parts) hplain.1 ?_)
    (reads_nodesFrom _ true 1 _ _)
  exact List.forall_mem_map.2 hplain.2

/-- What parts that start in a line write, up to the first trouble. -/
def writtenParts (printed : Nat → Hole → Except Trouble String) :
    Nat → List Part → Except Trouble String
  | _, [] => .ok ""
  | line, .literal s _ :: parts => do
    return s ++ (← writtenParts printed (line + lineEnds s) parts)
  | line, .hole h :: parts => do return (← printed line h) ++ (← writtenParts printed line parts)

theorem written_cons_empty (ts : List (Except Trouble String)) :
    written (.ok "" :: ts) = written ts := by
  rw [written_cons_ok]
  cases written ts <;> simp [Except.map]

section Writing

variable (printed : Nat → Hole → Except Trouble String)

/-- What is written of a text that starts in a line and of the holes after it. -/
def writtenFrom : Nat → List Char → List (Hole × List Char) → List (Except Trouble String)
  | _, lead, [] => [.ok (String.ofList lead)]
  | line, lead, (h, after) :: holes =>
    let start := line + lead.count '\n'
    .ok (String.ofList lead) :: printed start h :: writtenFrom start after holes

theorem written_append (line : Nat) (cs lead : List Char) (holes : List (Hole × List Char)) :
    written (writtenFrom printed line (cs ++ lead) holes) =
      (written (writtenFrom printed (line + cs.count '\n') lead holes)).map
        (String.ofList cs ++ ·) := by
  cases holes with
  | nil => simp [writtenFrom, Except.map, String.ofList_append]
  | cons x holes =>
    simp only [writtenFrom, written_cons_ok, List.count_append, Nat.add_assoc]
    cases written (printed (line + (cs.count '\n' + lead.count '\n')) x.1 :: _) <;>
      simp [Except.map, String.ofList_append, String.append_assoc]

/-- Texts and holes write what the parts do. -/
theorem written_grouped (line : Nat) (parts : List Part) :
    written (writtenFrom printed line (grouped parts).1 (grouped parts).2) =
      writtenParts printed line parts := by
  induction parts generalizing line with
  | nil => rfl
  | cons p parts ih =>
    cases p with
    | literal s plain =>
      rw [grouped, writtenParts, written_append, ih, String.ofList_toList, lineEnds]
      cases writtenParts printed (line + s.toList.count '\n') parts <;> rfl
    | hole h =>
      have hline : line + ([] : List Char).count '\n' = line := by simp
      rw [grouped, writtenParts, writtenFrom, hline, String.ofList_nil, written_cons_empty, written,
        ih]

variable {printed}

/-- The nodes write what the holes print, between the texts. -/
theorem gives_nodesFrom {P : State → Prop} {invoke : Invoke}
    (hprinted : ∀ line (h : Hole),
      Gives P (node invoke (.print line (h.path.expr line))) (printed line h) P)
    (line : Nat) (lead : List Char) (holes : List (Hole × List Char)) :
    Gives P (nodes invoke (nodesFrom line lead holes))
      (written (writtenFrom printed line lead holes)) P := by
  have htext : ∀ cs {ns ts}, Gives P (nodes invoke ns) (written ts) P →
      Gives P (nodes invoke (textNodes cs ++ ns)) (written (.ok (String.ofList cs) :: ts)) P := by
    intro cs ns ts h
    rw [textNodes]
    split
    · next hempty =>
      rw [List.isEmpty_iff.1 hempty, String.ofList_nil, written_cons_empty]
      exact h
    · exact gives_text _ h
  induction holes generalizing line lead with
  | nil =>
    have h := htext lead (gives_nil : Gives P (nodes invoke []) (written []) P)
    rwa [List.append_nil] at h
  | cons x holes ih => exact htext lead (gives_cons (hprinted _ x.1) (ih _ _))

end Writing

/-- A template that substitutes only writes what its parts write. -/
theorem render_source {context : List (Value × Value)}
    {printed : Nat → Hole → Except Trouble String}
    (hprinted : ∀ line (h : Hole),
      Gives (Within [{ Frame.empty with backing := .context context }])
        (node (Evaluator.invoke depthLimit) (.print line (h.path.expr line))) (printed line h)
        (Within [{ Frame.empty with backing := .context context }]))
    (parts : List Part) :
    Evaluator.render (nodesFrom 1 (grouped parts).1 (grouped parts).2) context =
      writtenParts printed 1 parts := by
  rw [← written_grouped]
  exact Evaluator.render_eq (gives_nodesFrom hprinted _ _ _)

end ReleaseBulletin.Template.Substitution

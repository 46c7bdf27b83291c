import Mathlib.Data.List.Basic
import ReleaseBulletin.Template.Piece

/-!
The words of a tag's inside. A text spells words if they are read off it whatever tag it stands in
and whatever follows, as long as no name goes on there.
-/
namespace ReleaseBulletin.Template
open Text.Blank

/-- Whether a text is a name as a whole. -/
def Token.isName (s : String) : Bool :=
  match s.toList with
  | c :: cs => startsName c && cs.all continuesName
  | [] => false

theorem Token.exists_of_isName {s : String} (h : isName s = true) :
    ∃ c cs, s.toList = c :: cs ∧ startsName c = true ∧ ∀ x ∈ cs, continuesName x = true := by
  unfold isName at h
  split at h
  · next c cs hs =>
    rw [Bool.and_eq_true, List.all_eq_true] at h
    exact ⟨c, cs, hs, h⟩
  · cases h

theorem Token.ne_of_startsName {c x : Char} (hc : startsName c = true)
    (hx : startsName x = false) : c ≠ x := by
  rintro rfl
  rw [hc] at hx
  cases hx

theorem Token.mark?_eq_none {c : Char} (h : startsName c = true) (cs : List Char) :
    mark? (c :: cs) = none := by
  unfold mark?
  split
  all_goals first
    | rfl
    | (next he => exact absurd (List.cons.inj he).1 (ne_of_startsName h rfl))

namespace Piece

/-- Whether a name that ended before the text stays as it is. -/
def EndsName (rest : List Char) : Prop := ∀ c ∈ rest.head?, Token.continuesName c = false

/-- The marks of a tag's end, and the signs before them. -/
def isClosingChar (c : Char) : Bool := ['-', '+', '}', '%', '#'].contains c

theorem closing?_eq_none {c : Char} (h : isClosingChar c = false) (kind : Kind) (cs : List Char) :
    closing? kind (c :: cs) = none := by
  have hne : ∀ x, isClosingChar x = true → c ≠ x := by
    rintro x hx rfl
    rw [h] at hx
    cases hx
  have hsign : sign (c :: cs) = (.usual, c :: cs) := by
    rw [sign.eq_def]
    split
    · next he => exact absurd (List.cons.inj he).1 (hne '-' rfl)
    · next he => exact absurd (List.cons.inj he).1 (hne '+' rfl)
    · rfl
  have hafter : Text.Affix.after? kind.closing (c :: cs) = none := by
    cases kind <;>
      simp [Kind.closing, Text.Affix.after?, (hne '}' rfl).symm, (hne '%' rfl).symm,
        (hne '#' rfl).symm]
  rw [closing?, hsign]
  dsimp only
  rw [hafter, Option.map_none]

section Words

variable {kind : Kind} {fuel line : Nat} {rest : List Char}

theorem words_blank (depth : Int) : words kind fuel depth line (' ' :: rest) =
    words kind fuel depth line rest := by
  cases fuel with
  | zero => rfl
  | succ fuel =>
    have htake : (' ' :: rest).takeWhile isAsciiBlank = ' ' :: rest.takeWhile isAsciiBlank := rfl
    have hdrop : (' ' :: rest).dropWhile isAsciiBlank = rest.dropWhile isAsciiBlank := rfl
    rw [words, words, htake, hdrop, List.count_cons_of_ne (by decide)]

/-- A word that a visible character starts. -/
theorem words_token {c : Char} {cs : List Char} {t : Token} (hblank : isAsciiBlank c = false)
    (hclosing : isClosingChar c = false) (hnext : Token.next? (c :: cs) = some (t, 0, rest))
    (hopening : ∀ m, t = .mark m → m.opening = 0) :
    words kind (fuel + 1) 0 line (c :: cs) =
      (words kind fuel 0 line rest).map fun (ws, more) => (⟨t, line⟩ :: ws, more) := by
  have htake : (c :: cs).takeWhile isAsciiBlank = [] := by rw [List.takeWhile_cons, hblank]; rfl
  have hdrop : (c :: cs).dropWhile isAsciiBlank = c :: cs := by rw [List.dropWhile_cons, hblank]; rfl
  rw [words, htake, hdrop, if_pos rfl, closing?_eq_none hclosing]
  cases t with
  | mark m => simp only [hnext, List.count_nil, Nat.add_zero, hopening m rfl, Int.add_zero]
  | _ => simp only [hnext, List.count_nil, Nat.add_zero, Int.add_zero]

theorem words_closing : words kind (fuel + 1) 0 line (kind.closing ++ rest) =
    some ([], .usual, line, rest) := by
  cases kind <;> rfl

end Words

/-- A text from which words are read. -/
structure Spells (cs : List Char) (ws : Nat → List Word) : Prop where
  length_le : ∀ line, (ws line).length ≤ cs.length
  read : ∀ (kind : Kind) (fuel line : Nat) (rest : List Char), EndsName rest →
    words kind (fuel + (ws line).length) 0 line (cs ++ rest) =
      (words kind fuel 0 line rest).map fun (more, tail) => (ws line ++ more, tail)

namespace Spells

variable {cs ds : List Char} {ws vs : Nat → List Word}

theorem nil : Spells [] fun _ => [] where
  length_le _ := Nat.le_refl 0
  read _ _ _ _ _ := (Option.map_id' ..).symm

theorem blank (h : Spells cs ws) : Spells (' ' :: cs) ws where
  length_le line := Nat.le_succ_of_le (h.length_le line)
  read kind fuel line rest hrest := by
    rw [List.cons_append, words_blank, h.read kind fuel line rest hrest]

theorem append (h : Spells cs ws) (hends : ∀ rest, EndsName rest → EndsName (ds ++ rest))
    (h' : Spells ds vs) : Spells (cs ++ ds) fun line => ws line ++ vs line where
  length_le line := by
    rw [List.length_append, List.length_append]
    exact Nat.add_le_add (h.length_le line) (h'.length_le line)
  read kind fuel line rest hrest := by
    have hfuel : fuel + (ws line ++ vs line).length =
        fuel + (vs line).length + (ws line).length := by
      rw [List.length_append]
      omega
    rw [hfuel, List.append_assoc, h.read kind _ line _ (hends rest hrest),
      h'.read kind fuel line rest hrest, Option.map_map]
    congr 1
    funext x
    simp

theorem token {c : Char} {cs : List Char} {t : Token} (hblank : isAsciiBlank c = false)
    (hclosing : isClosingChar c = false) (hopening : ∀ m, t = .mark m → m.opening = 0)
    (hnext : ∀ rest, EndsName rest → Token.next? (c :: (cs ++ rest)) = some (t, 0, rest)) :
    Spells (c :: cs) fun line => [⟨t, line⟩] where
  length_le _ := by simp
  read _ _ _ rest hrest := words_token hblank hclosing (hnext rest hrest) hopening

theorem name {s : String} (hs : Token.isName s = true) :
    Spells s.toList fun line => [⟨.name s, line⟩] := by
  obtain ⟨c, cs, hcs, hc, htail⟩ := Token.exists_of_isName hs
  have hne : ∀ x, Token.startsName x = false → c ≠ x := fun _ => Token.ne_of_startsName hc
  rw [hcs]
  refine token ?_ ?_ nofun fun rest hrest => ?_
  · simp [isAsciiBlank, hne ' ' rfl, hne '\t' rfl, hne '\n' rfl, hne '\x0c' rfl, hne '\r' rfl]
  · simp [isClosingChar, hne '-' rfl, hne '+' rfl, hne '}' rfl, hne '%' rfl, hne '#' rfl]
  · have hspan : (cs ++ rest).takeWhile Token.continuesName = cs ∧
        (cs ++ rest).dropWhile Token.continuesName = rest := by
      rw [List.takeWhile_append_of_pos htail, List.dropWhile_append_of_pos htail]
      cases rest with
      | nil => simp
      | cons x rest =>
        have hx := hrest x rfl
        simp [hx]
    have hname : Token.name? (c :: (cs ++ rest)) = some (s, rest) := by
      rw [Token.name?, if_pos hc, hspan.1, hspan.2, ← hcs, String.ofList_toList]
    simp only [Token.next?, Token.mark?_eq_none hc, hname]

/-- A name before other words. -/
theorem word {s : String} (hs : Token.isName s = true) (h : Spells ds vs) :
    Spells (s.toList ++ ' ' :: ds) fun line => ⟨.name s, line⟩ :: vs line :=
  (name hs).append (by rintro rest - c ⟨⟩; rfl) h.blank

theorem member {s : String} (hs : Token.isName s = true) :
    Spells ('.' :: s.toList) fun line => [⟨.mark .dot, line⟩, ⟨.name s, line⟩] where
  length_le line := Nat.succ_le_succ ((name hs).length_le line)
  read kind fuel line rest hrest := by
    have hdot : words kind (fuel + 1 + 1) 0 line ('.' :: (s.toList ++ rest)) =
        (words kind (fuel + 1) 0 line (s.toList ++ rest)).map fun (more, tail) =>
          (⟨.mark .dot, line⟩ :: more, tail) :=
      words_token rfl rfl rfl (by rintro _ ⟨⟩; rfl)
    have hname : words kind (fuel + 1) 0 line (s.toList ++ rest) =
        (words kind fuel 0 line rest).map fun (more, tail) => (⟨.name s, line⟩ :: more, tail) :=
      (name hs).read kind fuel line rest hrest
    refine hdot.trans ?_
    rw [hname, Option.map_map]
    rfl

theorem bar : Spells ['|'] fun line => [⟨.mark .bar, line⟩] :=
  token rfl rfl (by rintro _ ⟨⟩; rfl) fun _ _ => rfl

/-- A second equals sign would make another mark of it. -/
theorem assign (h : Spells ds vs) :
    Spells ('=' :: ' ' :: ds) fun line => ⟨.mark .assign, line⟩ :: vs line where
  length_le line := Nat.succ_le_succ (Nat.le_succ_of_le (h.length_le line))
  read kind fuel line rest hrest := by
    have hmark : words kind (fuel + (vs line).length + 1) 0 line ('=' :: ' ' :: (ds ++ rest)) =
        (words kind (fuel + (vs line).length) 0 line (' ' :: (ds ++ rest))).map
          fun (more, tail) => (⟨.mark .assign, line⟩ :: more, tail) :=
      words_token rfl rfl rfl (by rintro _ ⟨⟩; rfl)
    rw [words_blank, h.read kind fuel line rest hrest, Option.map_map] at hmark
    exact hmark

end Spells

end Piece

/-- Names that stand for a value of their own, or for an operation. -/
def Dotted.reserved : List String := ["not", "true", "True", "false", "False", "none", "None"]

/-- A variable and the names of members, each of them a member of the one before. -/
structure Dotted where
  base : String
  members : List String
  isName_base : Token.isName base = true
  isName_members : ∀ s ∈ members, Token.isName s = true
  free : base ∉ Dotted.reserved

namespace Dotted
open Piece

def ofNames (base : String) (members : List String)
    (h : ((base :: members).all Token.isName && !reserved.contains base) = true) : Dotted where
  base := base
  members := members
  isName_base := by simp_all
  isName_members := by simp_all
  free := by simp_all

def membersText (members : List String) : List Char := members.flatMap fun s => '.' :: s.toList

def memberWords (members : List String) (line : Nat) : List Word :=
  members.flatMap fun s => [⟨.mark .dot, line⟩, ⟨.name s, line⟩]

def text (d : Dotted) : List Char := d.base.toList ++ membersText d.members

def words (d : Dotted) (line : Nat) : List Word :=
  ⟨.name d.base, line⟩ :: memberWords d.members line

theorem endsName_members (members : List String) {rest : List Char} (h : EndsName rest) :
    EndsName (membersText members ++ rest) := by
  cases members with
  | nil => exact h
  | cons s members =>
    rintro c ⟨⟩
    rfl

theorem spells_members {members : List String} (h : ∀ s ∈ members, Token.isName s = true) :
    Spells (membersText members) (memberWords members) := by
  induction members with
  | nil => exact .nil
  | cons s members ih =>
    rw [List.forall_mem_cons] at h
    exact (Spells.member h.1).append (fun _ => endsName_members members) (ih h.2)

theorem spells (d : Dotted) : Spells d.text d.words :=
  (Spells.name d.isName_base).append (fun _ => endsName_members d.members)
    (spells_members d.isName_members)

end Dotted

end ReleaseBulletin.Template

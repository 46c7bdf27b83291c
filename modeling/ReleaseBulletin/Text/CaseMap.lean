import ReleaseBulletin.Text.CaseTable

/-!
Upper and lower case of whole texts. A character's form depends on itself alone, with one exception:
a capital sigma at the end of a word becomes the final form.
-/
namespace ReleaseBulletin.Text.CaseMap
open Range CaseTable

/-- The tabulated form of a character, `none` when it is its own form. -/
def mapped? (sequences : List (Nat × List Nat)) (spans : List Span) (c : Char) :
    Option (List Char) :=
  match sequences.lookup c.toNat with
  | some codes => some (codes.map Char.ofNat)
  | none => (spans.find? (·.covers c.toNat)).map fun s => [Char.ofNat (s.image c.toNat)]

def lowerChar (c : Char) : List Char :=
  if c.toNat < 0x80 then [c.toLower]
  else (mapped? lowerSequences lowerSpans c).getD [c]

def upperChar (c : Char) : List Char :=
  if c.toNat < 0x80 then [c.toUpper]
  else (mapped? upperSequences upperSpans c).getD [c]

/-- Whether, past characters that case ignores, a cased character comes first. -/
def meetsCased (cs : List Char) : Bool :=
  match cs.dropWhile caseIgnorableRanges.contains with
  | [] => false
  | c :: _ => casedRanges.contains c

/-- Whether a word ends between the two texts, the first of which is reversed. -/
def endsWord (before after : List Char) : Bool := meetsCased before && !meetsCased after

/-- The lower case form of `c` after the reversed text `before` and ahead of `after`. -/
def lowerAt (before : List Char) (c : Char) (after : List Char) : List Char :=
  if c = 'Σ' then [if endsWord before after then 'ς' else 'σ'] else lowerChar c

/-- The lower case form of a text that follows the reversed text `before`. -/
def lowerFrom (before : List Char) : List Char → List Char
  | [] => []
  | c :: rest => lowerAt before c rest ++ lowerFrom (c :: before) rest

def lower (cs : List Char) : List Char := lowerFrom [] cs

def upper (cs : List Char) : List Char := cs.flatMap upperChar

/-- The first character in upper case and the others, as a text of their own, in lower case. -/
def capitalize : List Char → List Char
  | [] => []
  | c :: rest => upperChar c ++ lower rest

theorem lowerChar_of_ascii {c : Char} (h : c.toNat < 0x80) : lowerChar c = [c.toLower] := by
  simp [lowerChar, h]

theorem upperChar_of_ascii {c : Char} (h : c.toNat < 0x80) : upperChar c = [c.toUpper] := by
  simp [upperChar, h]

theorem lowerAt_of_ne_sigma {c : Char} (h : c ≠ 'Σ') (before after : List Char) :
    lowerAt before c after = lowerChar c := by
  simp [lowerAt, h]

/-- Texts in ASCII are mapped letter by letter. -/
theorem lower_of_ascii {cs : List Char} (h : ∀ c ∈ cs, c.toNat < 0x80) :
    lower cs = cs.map Char.toLower := by
  suffices ∀ before, lowerFrom before cs = cs.map Char.toLower from this []
  induction cs with
  | nil => intro _; rfl
  | cons c rest ih =>
    intro before
    have hc : c.toNat < 0x80 := h c (by simp)
    have hs : c ≠ 'Σ' := by rintro rfl; revert hc; decide
    rw [lowerFrom, lowerAt_of_ne_sigma hs, lowerChar_of_ascii hc, ih fun d hd => h d (by simp [hd])]
    rfl

end ReleaseBulletin.Text.CaseMap

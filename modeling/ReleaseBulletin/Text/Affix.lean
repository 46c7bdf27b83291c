/-!
Leading parts of texts, and texts cut at a character.
-/
namespace ReleaseBulletin.Text.Affix

/-- What follows the leading text, when the text starts with it. -/
def after? : List Char → List Char → Option (List Char)
  | [], cs => some cs
  | _ :: _, [] => none
  | l :: lead, c :: cs => if l = c then after? lead cs else none

theorem after?_append (lead cs : List Char) : after? lead (lead ++ cs) = some cs := by
  induction lead with
  | nil => rfl
  | cons l lead ih => simp [after?, ih]

theorem after?_eq_some_iff {lead cs rest : List Char} :
    after? lead cs = some rest ↔ cs = lead ++ rest := by
  induction lead generalizing cs with
  | nil => simp [after?, eq_comm]
  | cons l lead ih =>
    cases cs with
    | nil => simp [after?]
    | cons c cs =>
      by_cases h : l = c
      · simp [after?, h, ih]
      · simp [after?, h, Ne.symm h]

/-- The parts of a text between the occurrences of a character: one more than there are of them. -/
def split (sep : Char) : List Char → List (List Char)
  | [] => [[]]
  | c :: cs =>
    if c = sep then [] :: split sep cs
    else
      match split sep cs with
      | [] => [[c]]
      | part :: parts => (c :: part) :: parts

/-- Texts with a separator between neighbours. -/
def joined (sep : List Char) : List (List Char) → List Char
  | [] => []
  | [part] => part
  | part :: parts => part ++ sep ++ joined sep parts

def afterFirst? (sep : Char) : List Char → Option (List Char)
  | [] => none
  | c :: cs => if c = sep then some cs else afterFirst? sep cs

theorem afterFirst?_append {sep : Char} {cs : List Char} (h : sep ∉ cs) (rest : List Char) :
    afterFirst? sep (cs ++ sep :: rest) = some rest := by
  induction cs with
  | nil => simp [afterFirst?]
  | cons c cs ih =>
    have hc : c ≠ sep := fun e => h (by simp [e])
    simp [afterFirst?, hc, ih fun m => h (by simp [m])]

theorem afterFirst?_eq_none_iff {sep : Char} {cs : List Char} :
    afterFirst? sep cs = none ↔ sep ∉ cs := by
  induction cs with
  | nil => simp [afterFirst?]
  | cons c cs ih =>
    by_cases hc : c = sep
    · simp [afterFirst?, hc]
    · simp [afterFirst?, hc, ih, Ne.symm hc]

/-- Whether the text occurs in the other one. -/
def occursIn (needle : List Char) : List Char → Bool
  | [] => needle.isEmpty
  | c :: cs => needle.isPrefixOf (c :: cs) || occursIn needle cs

theorem occursIn_eq_true_iff {needle cs : List Char} :
    occursIn needle cs = true ↔ needle <:+: cs := by
  induction cs with
  | nil => simp [occursIn]
  | cons c cs ih =>
    simp only [occursIn, Bool.or_eq_true, List.isPrefixOf_iff_prefix, ih, List.infix_cons_iff]

theorem split_ne_nil (sep : Char) (cs : List Char) : split sep cs ≠ [] := by
  cases cs with
  | nil => simp [split]
  | cons c cs =>
    simp only [split]
    split
    · simp
    · split <;> simp

/-- Cutting loses nothing but the separators. -/
theorem joined_split (sep : Char) (cs : List Char) : joined [sep] (split sep cs) = cs := by
  induction cs with
  | nil => rfl
  | cons c cs ih =>
    simp only [split]
    split
    · rename_i h
      cases hs : split sep cs with
      | nil => exact absurd hs (split_ne_nil sep cs)
      | cons part parts =>
        rw [hs] at ih
        simp [joined, ih, h]
    · cases hs : split sep cs with
      | nil => exact absurd hs (split_ne_nil sep cs)
      | cons part parts =>
        rw [hs] at ih
        cases parts with
        | nil => simpa [joined] using ih
        | cons p ps => simpa [joined] using ih

end ReleaseBulletin.Text.Affix

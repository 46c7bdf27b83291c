import ReleaseBulletin.Proofs.ChainRuntime.Declaration

/-!
Versions that are declared by a literal, in which underscores may part the digits. The digits before
the first underscore are read as the version.
-/
namespace ReleaseBulletin.ChainRuntime.SpecVersion
open Text.Affix Text.Blank Text.Digit

/-- A decimal literal: a digit, then digits and underscores. -/
def IsLiteral : List Char → Prop
  | [] => False
  | d :: cs => d.isDigit = true ∧ ∀ c ∈ cs, c.isDigit = true ∨ c = '_'

instance : DecidablePred IsLiteral
  | [] => isFalse id
  | _ :: cs =>
    have := List.decidableBAll (fun c : Char => c.isDigit = true ∨ c = '_') cs
    instDecidableAnd

/-- The number that a literal writes, for which underscores do not count. -/
def literalValue (literal : List Char) : Nat :=
  Nat.ofDigitChars 10 (literal.filter (· != '_')) 0

/-- The digits of a literal before its first underscore. -/
def leading (literal : List Char) : List Char := literal.takeWhile (· != '_')

/-- What is left of a literal after its leading digits. -/
def remaining (literal : List Char) : List Char := literal.dropWhile (· != '_')

/-- A source that declares its version by a literal, after some lines. -/
def declaring (lines : List (List Char)) (indent gap literal after : List Char) : List Char :=
  ended '\n' lines ++ (indent ++ (keyword ++ (gap ++ (literal ++ ',' :: after))))

theorem IsLiteral.isDigit_leading {literal : List Char} (h : IsLiteral literal) :
    ∀ c ∈ leading literal, c.isDigit = true := by
  intro c hc
  have hne : c ≠ '_' := by simpa using List.mem_takeWhile_imp hc
  cases literal with
  | nil => cases h
  | cons d cs =>
    rcases List.mem_cons.1 ((List.takeWhile_sublist _).subset hc) with rfl | hmem
    · exact h.1
    · exact (h.2 c hmem).resolve_right hne

theorem IsLiteral.leading_ne_nil {literal : List Char} (h : IsLiteral literal) :
    leading literal ≠ [] := by
  cases literal with
  | nil => cases h
  | cons d cs =>
    have hd : d ≠ '_' := by
      rintro rfl
      exact absurd h.1 (by decide)
    simp [leading, hd]

theorem head?_remaining {literal : List Char} {c : Char}
    (h : (remaining literal).head? = some c) : c = '_' := by
  have hnot := List.head?_dropWhile_not (· != '_') literal
  rw [← remaining, h] at hnot
  simpa using hnot

theorem leading_append_remaining (literal : List Char) :
    leading literal ++ remaining literal = literal := List.takeWhile_append_dropWhile

/-- The digits after the first underscore push the leading ones to the left. -/
theorem literalValue_eq (literal : List Char) :
    literalValue literal =
      Nat.pow 10 ((remaining literal).filter (· != '_')).length *
          Nat.ofDigitChars 10 (leading literal) 0 +
        Nat.ofDigitChars 10 ((remaining literal).filter (· != '_')) 0 := by
  have hleading : (leading literal).filter (· != '_') = leading literal :=
    List.filter_eq_self.2 fun c => List.mem_takeWhile_imp
  have hparts : literal.filter (· != '_') =
      leading literal ++ (remaining literal).filter (· != '_') := by
    conv_lhs => rw [← leading_append_remaining literal, List.filter_append, hleading]
  rw [literalValue, hparts, Nat.ofDigitChars_append, Nat.ofDigitChars_eq_ofDigitChars_zero,
    Nat.pow_eq]

theorem leading_le_literalValue (literal : List Char) :
    Nat.ofDigitChars 10 (leading literal) 0 ≤ literalValue literal := by
  rw [literalValue_eq]
  exact Nat.le_add_right_of_le (Nat.le_mul_of_pos_left _ (Nat.pow_pos (by decide)))

/-- The leading digits alone write the number of a literal if no digits come after them, and else
for zero alone. -/
theorem leading_eq_literalValue_iff (literal : List Char) :
    Nat.ofDigitChars 10 (leading literal) 0 = literalValue literal ↔
      literalValue literal = 0 ∨ ∀ c ∈ remaining literal, c = '_' := by
  have hvalue := literalValue_eq literal
  have hnone : (remaining literal).filter (· != '_') = [] ↔ ∀ c ∈ remaining literal, c = '_' := by
    simp [List.filter_eq_nil_iff]
  rw [← hnone]
  by_cases hmore : (remaining literal).filter (· != '_') = []
  · rw [hmore] at hvalue
    simp only [hmore, or_true, iff_true]
    simpa using hvalue.symm
  · have hten : 10 ≤ Nat.pow 10 ((remaining literal).filter (· != '_')).length :=
      Nat.le_pow (List.length_pos_iff.2 hmore)
    have hshift := Nat.mul_le_mul_right (Nat.ofDigitChars 10 (leading literal) 0) hten
    have hle := leading_le_literalValue literal
    simp only [hmore, or_false]
    omega

theorem lastLine_append (front rest : List Char) :
    lastLine (front ++ '\n' :: rest) = lastLine rest := by
  induction front with
  | nil => simp [lastLine]
  | cons c front ih => simp [lastLine, ih]

theorem lastLine_ended (lines : List (List Char)) (rest : List Char) :
    lastLine (ended '\n' lines ++ rest) = lastLine rest := by
  induction lines with
  | nil => rfl
  | cons line lines ih =>
    rw [ended_cons, List.append_assoc, List.cons_append, lastLine_append, ih]

theorem isFirst_declaring {lines : List (List Char)} {indent gap literal : List Char}
    (hlines : ∀ line ∈ lines, ¬ "spec_version".toList <:+: line)
    (hindent : ∀ c ∈ indent, isBlank c = true) (hgap : ∀ c ∈ gap, isBlank c = true)
    (hliteral : IsLiteral literal) (after : List Char) :
    IsFirst (declaring lines indent gap literal after) (ended '\n' lines ++ indent)
      (leading literal) (remaining literal ++ ',' :: after) := by
  have hsource : declaring lines indent gap literal after =
      ended '\n' lines ++ indent ++
        (keyword ++ (gap ++ (leading literal ++ (remaining literal ++ ',' :: after)))) := by
    conv_lhs => rw [declaring, ← leading_append_remaining literal]
    simp only [List.append_assoc]
  have hended : ∀ c, (remaining literal ++ ',' :: after).head? = some c → isDecimal c = false := by
    intro c hc
    cases hrest : remaining literal with
    | nil =>
      obtain rfl : ',' = c := by simpa [hrest] using hc
      decide
    | cons d cs =>
      obtain rfl : d = c := by simpa [hrest] using hc
      obtain rfl : d = '_' := head?_remaining (by rw [hrest]; rfl)
      decide
  have hname : keyword = "spec_version".toList ++ [':'] := by decide
  have hfree : ¬ "spec_version".toList <:+: ended '\n' lines ++ indent := by
    refine not_infix_ended (by decide) hlines fun h => ?_
    exact absurd (hindent 's' (h.subset (by decide))) (by decide)
  have hdecimal : ∀ d ∈ leading literal, isDecimal d = true := fun d hd =>
    isDecimal_of_isDigit (hliteral.isDigit_leading d hd)
  refine ⟨⟨hliteral.leading_ne_nil, hdecimal, hended, gap, hgap, hsource⟩, fun c hc => ?_,
    fun front' hcandidate => ?_⟩
  · rw [lastLine_ended] at hc
    exact hindent c (mem_of_mem_lastLine hc)
  · by_contra hlt
    obtain ⟨-, gap', d, rest, -, -, hform⟩ := hcandidate
    obtain ⟨mid, hmid⟩ := keyword_apart (hsource.symm.trans hform) (Nat.lt_of_not_le hlt)
    refine hfree ⟨front', ':' :: mid, ?_⟩
    rw [hmid, hname]
    simp only [List.append_assoc, List.singleton_append]

/-- A version that a literal declares is read from the digits before its first underscore. So it is
the number of the literal if no digits come after an underscore, and else for zero alone. -/
theorem ofSource?_reads_leading_digits {lines : List (List Char)} {indent gap literal : List Char}
    (hlines : ∀ line ∈ lines, ¬ "spec_version".toList <:+: line)
    (hindent : ∀ c ∈ indent, isBlank c = true) (hgap : ∀ c ∈ gap, isBlank c = true)
    (hliteral : IsLiteral literal) (hsmall : literalValue literal < Width.count 32)
    (after : List Char) :
    let version := ofSource? (String.ofList (declaring lines indent gap literal after))
    version = some (Nat.ofDigitChars 10 (leading literal) 0) ∧
      (version = some (literalValue literal) ↔
        literalValue literal = 0 ∨ ∀ c ∈ remaining literal, c = '_') := by
  intro version
  have hfirst : IsFirst (String.ofList (declaring lines indent gap literal after)).toList
      (ended '\n' lines ++ indent) (leading literal) (remaining literal ++ ',' :: after) := by
    rw [String.toList_ofList]
    exact isFirst_declaring hlines hindent hgap hliteral after
  have hlimit : Nat.ofDigitChars 10 (leading literal) 0 < limit :=
    (leading_le_literalValue literal).trans_lt hsmall
  have hversion : version = some (Nat.ofDigitChars 10 (leading literal) 0) := by
    refine (ofSource?_of_isFirst hfirst).trans ?_
    rw [natBelow?_eq hliteral.leading_ne_nil,
      if_pos ⟨List.all_eq_true.2 hliteral.isDigit_leading, hlimit⟩]
  refine ⟨hversion, ?_⟩
  rw [hversion, Option.some.injEq, leading_eq_literalValue_iff]

/-- A literal that ends in an underscore is read in full. -/
theorem ofSource?_of_trailing_underscore :
    let lines := ["// increment the version".toList, "pub const VERSION".toList]
    let source := declaring lines "  ".toList " ".toList "6030_".toList " // next".toList
    (∀ line ∈ lines, ¬ "spec_version".toList <:+: line) ∧
      (∀ c ∈ "  ".toList, isBlank c = true) ∧ (∀ c ∈ " ".toList, isBlank c = true) ∧
      IsLiteral "6030_".toList ∧ literalValue "6030_".toList = 6030 ∧
      ofSource? (String.ofList source) = some 6030 := by
  intro lines source
  have hlines : ∀ line ∈ lines, ¬ "spec_version".toList <:+: line := by decide
  have hindent : ∀ c ∈ "  ".toList, isBlank c = true := List.all_eq_true.1 (by decide)
  have hgap : ∀ c ∈ " ".toList, isBlank c = true := List.all_eq_true.1 (by decide)
  have hliteral : IsLiteral "6030_".toList := by decide
  have hvalue : literalValue "6030_".toList = 6030 := by decide
  have hread := ofSource?_reads_leading_digits hlines hindent hgap hliteral (by decide)
    " // next".toList
  have hrest : ∀ c ∈ remaining "6030_".toList, c = '_' := by simp [remaining]
  exact ⟨hlines, hindent, hgap, hliteral, hvalue, hvalue ▸ hread.2.2 (.inr hrest)⟩

/-- Of a literal with an underscore between its digits only those before it are read. -/
theorem version_cut_at_underscore :
    let source := "  spec_version: 6_030,\n"
    source.toList = declaring [] "  ".toList " ".toList "6_030".toList "\n".toList ∧
      IsLiteral "6_030".toList ∧ literalValue "6_030".toList = 6030 ∧
      ofSource? source = some 6 := by
  decide

end ReleaseBulletin.ChainRuntime.SpecVersion

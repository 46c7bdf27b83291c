/-!
Sets of characters given by ranges of code points, the form in which character classes are
tabulated.
-/
namespace ReleaseBulletin.Text.Range

/-- A set of characters: inclusive ranges of code points. -/
abbrev Ranges := List (Nat × Nat)

def Ranges.contains (ranges : Ranges) (c : Char) : Bool :=
  ranges.any fun r => r.1 ≤ c.toNat && c.toNat ≤ r.2

theorem Ranges.contains_iff (ranges : Ranges) (c : Char) :
    ranges.contains c = true ↔ ∃ r ∈ ranges, r.1 ≤ c.toNat ∧ c.toNat ≤ r.2 := by
  simp [Ranges.contains]

theorem Ranges.contains_eq_false {ranges others : Ranges}
    (h : ∀ r ∈ ranges, ∀ o ∈ others, r.2 < o.1 ∨ o.2 < r.1) {c : Char}
    (hc : others.contains c = true) : ranges.contains c = false := by
  obtain ⟨o, ho, hlow, hhigh⟩ := (contains_iff others c).1 hc
  refine Bool.eq_false_iff.2 fun hboth => ?_
  obtain ⟨r, hr, hleast, hgreatest⟩ := (contains_iff ranges c).1 hboth
  have hapart := h r hr o ho
  omega

end ReleaseBulletin.Text.Range

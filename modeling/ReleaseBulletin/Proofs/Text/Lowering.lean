import ReleaseBulletin.Text.CaseMap

/-!
The lower case form of a part of a text. Nothing but the form of a capital sigma depends on what
surrounds the part, and that only as far as the nearest characters that case does not ignore. A text
occurs in lower case wherever it occurs, exactly if those characters are in the text itself.
-/
namespace ReleaseBulletin.Text.CaseMap
open Range CaseTable

/-- The lower case form of a part of a text, after the reversed text `before` and ahead of
`after`. -/
def lowerWithin (before after : List Char) : List Char → List Char
  | [] => []
  | c :: rest => lowerAt before c (rest ++ after) ++ lowerWithin (c :: before) after rest

theorem lowerFrom_eq_lowerWithin (before cs : List Char) :
    lowerFrom before cs = lowerWithin before [] cs := by
  induction cs generalizing before with
  | nil => rfl
  | cons c rest ih => rw [lowerFrom, lowerWithin, List.append_nil, ih]

theorem lower_eq_lowerWithin (cs : List Char) : lower cs = lowerWithin [] [] cs :=
  lowerFrom_eq_lowerWithin [] cs

theorem lowerWithin_append (before after xs ys : List Char) :
    lowerWithin before after (xs ++ ys) =
      lowerWithin before (ys ++ after) xs ++ lowerWithin (xs.reverse ++ before) after ys := by
  induction xs generalizing before with
  | nil => rfl
  | cons x xs ih =>
    rw [List.cons_append, lowerWithin, ih, lowerWithin, List.append_assoc, List.append_assoc,
      List.reverse_cons, List.append_assoc, List.singleton_append]

theorem lower_append (a cs b : List Char) :
    lower (a ++ cs ++ b) = lowerWithin [] (cs ++ b) a ++ lowerWithin a.reverse b cs ++
      lowerWithin (cs.reverse ++ a.reverse) [] b := by
  rw [lower_eq_lowerWithin, lowerWithin_append, lowerWithin_append]
  simp only [List.append_nil, List.reverse_append]

theorem lowerWithin_congr {before before' after after' cs : List Char}
    (h : ∀ u v, cs = u ++ 'Σ' :: v →
      endsWord (u.reverse ++ before) (v ++ after) = endsWord (u.reverse ++ before') (v ++ after')) :
    lowerWithin before after cs = lowerWithin before' after' cs := by
  -- Along the part the text before it grows, and with it the first part of each split.
  induction cs generalizing before before' with
  | nil => rfl
  | cons c rest ih =>
    have hc : lowerAt before c (rest ++ after) = lowerAt before' c (rest ++ after') := by
      by_cases hs : c = 'Σ'
      · subst hs
        have hends : endsWord before (rest ++ after) = endsWord before' (rest ++ after') :=
          h [] rest rfl
        rw [lowerAt, lowerAt, hends]
      · rw [lowerAt_of_ne_sigma hs, lowerAt_of_ne_sigma hs]
    have hrest : lowerWithin (c :: before) after rest = lowerWithin (c :: before') after' rest :=
      ih fun u v huv => by simpa using h (c :: u) v (by rw [huv, List.cons_append])
    rw [lowerWithin, lowerWithin, hc, hrest]

theorem lowerWithin_of_not_mem {cs : List Char} (h : 'Σ' ∉ cs) (before after : List Char) :
    lowerWithin before after cs = lower cs := by
  rw [lower_eq_lowerWithin]
  exact lowerWithin_congr fun u v huv => absurd (by simp [huv]) h

/-- Whether the first character that case does not ignore is cased, if there is one. -/
def nearest? (cs : List Char) : Option Bool :=
  (cs.dropWhile caseIgnorableRanges.contains).head?.map casedRanges.contains

theorem nearest?_append (xs ys : List Char) :
    nearest? (xs ++ ys) = (nearest? xs).or (nearest? ys) := by
  induction xs with
  | nil => rfl
  | cons x xs ih =>
    by_cases hx : caseIgnorableRanges.contains x = true
    · simpa [nearest?, hx] using ih
    · simp [nearest?, hx]

theorem meetsCased_eq (cs : List Char) : meetsCased cs = (nearest? cs).getD false := by
  rw [meetsCased, nearest?]
  cases cs.dropWhile caseIgnorableRanges.contains <;> rfl

theorem nearest?_sigma (cs : List Char) : nearest? ('Σ' :: cs) = some true := by
  have hcased : casedRanges.contains 'Σ' = true := by decide +kernel
  have hkept : ¬ caseIgnorableRanges.contains 'Σ' = true := by decide +kernel
  rw [nearest?, List.dropWhile_cons, if_neg hkept, List.head?_cons, Option.map_some, hcased]

theorem not_mem_of_nearest? {cs : List Char} (h : nearest? cs = none) : 'Σ' ∉ cs := by
  intro hmem
  obtain ⟨u, v, rfl⟩ := List.append_of_mem hmem
  rw [nearest?_append, nearest?_sigma] at h
  cases hu : nearest? u <;> simp [hu] at h

theorem meetsCased_append {xs : List Char} {b : Bool} (h : nearest? xs = some b)
    (ys : List Char) : meetsCased (xs ++ ys) = b := by
  rw [meetsCased_eq, nearest?_append, h, Option.some_or, Option.getD_some]

theorem lowerWithin_before {xs : List Char} {b : Bool} (h : nearest? xs = some b)
    (ys after cs : List Char) :
    lowerWithin (xs ++ ys) after cs = lowerWithin xs after cs := by
  refine lowerWithin_congr fun u v _ => ?_
  have hmeets : meetsCased (u.reverse ++ (xs ++ ys)) = meetsCased (u.reverse ++ xs) := by
    rw [meetsCased_eq, meetsCased_eq, ← List.append_assoc, nearest?_append, nearest?_append, h]
    cases nearest? u.reverse <;> rfl
  rw [endsWord, endsWord, hmeets]

theorem lowerWithin_after {xs : List Char} {b : Bool} (h : nearest? xs = some b)
    (ys before cs : List Char) :
    lowerWithin before (xs ++ ys) cs = lowerWithin before xs cs := by
  refine lowerWithin_congr fun u v _ => ?_
  have hmeets : meetsCased (v ++ (xs ++ ys)) = meetsCased (v ++ xs) := by
    rw [meetsCased_eq, meetsCased_eq, ← List.append_assoc, nearest?_append, nearest?_append, h]
    cases nearest? v <;> rfl
  rw [endsWord, endsWord, hmeets]

/-- The texts around a capital sigma, the first of which is reversed, tell its form whatever stands
around them: no cased character comes right before it, or one comes right after it, or the first and
not the second. -/
inductive SettlesSigma (before after : List Char) : Prop
  | starts (uncased : nearest? before = some false)
  | goesOn (cased : nearest? after = some true)
  | ends (cased : nearest? before = some true) (uncased : nearest? after = some false)

theorem SettlesSigma.endsWord_eq {before after : List Char} (h : SettlesSigma before after)
    (xs ys : List Char) : endsWord (before ++ xs) (after ++ ys) = endsWord before after := by
  cases h with
  | starts uncased =>
    rw [endsWord, endsWord, meetsCased_append uncased, meetsCased_eq before, uncased]
    rfl
  | goesOn cased =>
    rw [endsWord, endsWord, meetsCased_append cased, meetsCased_eq after, cased]
    simp
  | ends cased uncased =>
    rw [endsWord, endsWord, meetsCased_append cased, meetsCased_append uncased,
      meetsCased_eq before, meetsCased_eq after, cased, uncased]
    rfl

/-- The text tells the form of each of its capital sigmas. -/
def IsSettled (cs : List Char) : Prop :=
  ∀ u v, cs = u ++ 'Σ' :: v → SettlesSigma u.reverse v

theorem lowerWithin_of_isSettled {cs : List Char} (h : IsSettled cs) (before after : List Char) :
    lowerWithin before after cs = lower cs := by
  rw [lower_eq_lowerWithin]
  refine lowerWithin_congr fun u v huv => ?_
  rw [(h u v huv).endsWord_eq, List.append_nil, List.append_nil]

theorem isSettled_of_not_mem {cs : List Char} (h : 'Σ' ∉ cs) : IsSettled cs :=
  fun u v huv => absurd (by simp [huv]) h

theorem lowerWithin_sigma (before after u v : List Char) :
    lowerWithin before after (u ++ 'Σ' :: v) = lowerWithin before ('Σ' :: v ++ after) u ++
      (if endsWord (u.reverse ++ before) (v ++ after) then 'ς' else 'σ') ::
        lowerWithin ('Σ' :: u.reverse ++ before) after v := by
  rw [lowerWithin_append, lowerWithin, lowerAt, if_pos rfl]
  rfl

theorem lower_around {a b : List Char} (ha : 'Σ' ∉ a) (hb : 'Σ' ∉ b) (cs : List Char) :
    lower (a ++ cs ++ b) = lower a ++ lowerWithin a.reverse b cs ++ lower b := by
  rw [lower_append, lowerWithin_of_not_mem ha, lowerWithin_of_not_mem hb]

theorem not_infix_of_count_lt {x : Char} {xs ys : List Char} (h : ys.count x < xs.count x) :
    ¬ xs <:+: ys :=
  fun hi => absurd (hi.sublist.count_le x) (Nat.not_le.2 h)

theorem lower_letter : lower ['A'] = ['a'] := by decide +kernel

theorem nearest?_letter : nearest? ['A'] = some true := by decide +kernel

theorem not_infix_lower_after_letter {u v : List Char} (hu : nearest? u.reverse = none)
    (hv : nearest? v ≠ some true) :
    ¬ lower (u ++ 'Σ' :: v) <:+: lower (['A'] ++ (u ++ 'Σ' :: v) ++ []) := by
  -- Alone, the sigma starts its word and is no final one. After the letter it is one, all else stays
  -- as it is, and so the longer text has one such sigma less.
  have hplain : 'Σ' ∉ u := by simpa using not_mem_of_nearest? hu
  have hv' : meetsCased v = false := by
    rw [meetsCased_eq]
    cases h : nearest? v with
    | none => rfl
    | some b => simpa [h] using hv
  have halone : endsWord (u.reverse ++ []) (v ++ []) = false := by
    rw [endsWord, List.append_nil, meetsCased_eq, hu]
    rfl
  have hafter : endsWord (u.reverse ++ ['A']) (v ++ []) = true := by
    rw [endsWord, meetsCased_eq, nearest?_append, hu, nearest?_letter, List.append_nil, hv']
    rfl
  have hrest : ∀ xs, lowerWithin ('Σ' :: u.reverse ++ xs) [] v =
      lowerWithin ('Σ' :: u.reverse) [] v :=
    fun xs => lowerWithin_before (nearest?_sigma _) xs [] v
  have hneedle : lower (u ++ 'Σ' :: v) =
      lower u ++ 'σ' :: lowerWithin ('Σ' :: u.reverse) [] v := by
    rw [lower_eq_lowerWithin, lowerWithin_sigma, lowerWithin_of_not_mem hplain, halone, hrest]
    rfl
  have htext : lower (['A'] ++ (u ++ 'Σ' :: v) ++ []) =
      'a' :: (lower u ++ 'ς' :: lowerWithin ('Σ' :: u.reverse) [] v) := by
    rw [lower_around (by decide) (by decide), lower_letter, List.reverse_singleton,
      lowerWithin_sigma, lowerWithin_of_not_mem hplain, hafter, hrest]
    exact List.append_nil _
  refine not_infix_of_count_lt (x := 'σ') ?_
  rw [hneedle, htext]
  simp

theorem not_infix_lower_before_letter {u v : List Char} (hu : nearest? u.reverse = some true)
    (hv : nearest? v = none) :
    ¬ lower (u ++ 'Σ' :: v) <:+: lower ([] ++ (u ++ 'Σ' :: v) ++ ['A']) := by
  -- Alone, the sigma is a final one. Before the letter it is none, and the longer text has one less.
  have hplain : 'Σ' ∉ v := not_mem_of_nearest? hv
  have hu' : meetsCased (u.reverse ++ []) = true := meetsCased_append hu []
  have halone : endsWord (u.reverse ++ []) (v ++ []) = true := by
    rw [endsWord, hu', List.append_nil, meetsCased_eq, hv]
    rfl
  have hbefore : endsWord (u.reverse ++ []) (v ++ ['A']) = false := by
    rw [endsWord, hu', meetsCased_eq, nearest?_append, hv, nearest?_letter]
    rfl
  have hrest : ∀ xs, lowerWithin [] ('Σ' :: v ++ xs) u = lowerWithin [] ('Σ' :: v) u :=
    fun xs => lowerWithin_after (nearest?_sigma _) xs [] u
  have hneedle : lower (u ++ 'Σ' :: v) = lowerWithin [] ('Σ' :: v) u ++ 'ς' :: lower v := by
    rw [lower_eq_lowerWithin, lowerWithin_sigma, lowerWithin_of_not_mem hplain, halone, hrest]
    rfl
  have htext : lower ([] ++ (u ++ 'Σ' :: v) ++ ['A']) =
      lowerWithin [] ('Σ' :: v) u ++ 'σ' :: lower v ++ ['a'] := by
    rw [lower_around (by decide) (by decide), lower_letter, List.reverse_nil,
      lowerWithin_sigma, lowerWithin_of_not_mem hplain, hbefore, hrest]
    rfl
  refine not_infix_of_count_lt (x := 'ς') ?_
  rw [hneedle, htext]
  simp

theorem isSettled_of_infix {cs : List Char}
    (h : ∀ a b, lower cs <:+: lower (a ++ cs ++ b)) : IsSettled cs := by
  rintro u v rfl
  by_cases hgoesOn : nearest? v = some true
  · exact .goesOn hgoesOn
  · cases hu : nearest? u.reverse with
    | none => exact absurd (h ['A'] []) (not_infix_lower_after_letter hu hgoesOn)
    | some cased =>
      cases cased with
      | false => exact .starts hu
      | true =>
        cases hv : nearest? v with
        | none => exact absurd (h [] ['A']) (not_infix_lower_before_letter hu hv)
        | some cased =>
          cases cased with
          | false => exact .ends hu hv
          | true => exact absurd hv hgoesOn

/-- A text occurs in lower case wherever it occurs exactly if it tells the form of each of its capital
sigmas. -/
theorem isSettled_iff {cs : List Char} :
    IsSettled cs ↔ ∀ a b, lower cs <:+: lower (a ++ cs ++ b) := by
  refine ⟨fun h a b => ?_, isSettled_of_infix⟩
  rw [lower_append, lowerWithin_of_isSettled h]
  exact List.infix_append ..

end ReleaseBulletin.Text.CaseMap

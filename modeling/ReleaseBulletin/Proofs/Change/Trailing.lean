import ReleaseBulletin.Proofs.Change.Grammar
import ReleaseBulletin.Text.Blank

/-!
References at the end of subjects. The last reference in a subject names a change request wherever
it stands: at the end, where a squashed change has it, or in the midst, where it may be quoted from
another change.
-/
namespace ReleaseBulletin.Change.Subject
open Text.Affix Text.Blank Text.Digit

/-- A reference in a subject, between some text before it and some after it. -/
def IsPlaced (subject front ds rest : List Char) : Prop :=
  IsNumeral ds ∧ subject = front ++ ("(#".toList ++ (ds ++ (")".toList ++ rest)))

/-- The subject ends with a reference to the request, white space apart. -/
def EndsIn (subject : List Char) (n : Nat) : Prop :=
  ∃ front ds gap, IsPlaced subject front ds gap ∧ (∀ c ∈ gap, isBlank c = true) ∧
    Writes ds (some n)

/-- The last reference in the subject is to the request, and more text than white space comes after
it. -/
def MentionsLast (subject : List Char) (n : Nat) : Prop :=
  ∃ front ds rest, IsPlaced subject front ds rest ∧ (∃ c ∈ rest, isBlank c = false) ∧
    (∀ front' ds', IsReference subject front' ds' → front'.length ≤ front.length) ∧
    Writes ds (some n)

theorem IsPlaced.isReference {subject front ds rest : List Char}
    (h : IsPlaced subject front ds rest) : IsReference subject front ds :=
  ⟨h.1, rest, h.2⟩

/-- The text before a reference tells its digits and what comes after them. -/
theorem IsPlaced.unique {subject front ds ds' rest rest' : List Char}
    (h : IsPlaced subject front ds rest) (h' : IsPlaced subject front ds' rest') :
    ds = ds' ∧ rest = rest' := by
  have htail : "(#".toList ++ (ds ++ (")".toList ++ rest)) =
      "(#".toList ++ (ds' ++ (")".toList ++ rest')) :=
    List.append_cancel_left (h.2.symm.trans h'.2)
  have hdigits : ds ++ (")".toList ++ rest) = ds' ++ (")".toList ++ rest') :=
    List.append_cancel_left htail
  have hparen : ∀ rest : List Char, ∀ c, (")".toList ++ rest).head? = some c →
      isDecimal c = false := by
    rintro rest c ⟨⟩
    decide
  have hread := digits?_eq_some_iff.2 ⟨h.1, rfl, hparen rest⟩
  rw [hdigits, digits?_eq_some_iff.2 ⟨h'.1, rfl, hparen rest'⟩, Option.some.injEq,
    Prod.mk.injEq] at hread
  exact ⟨hread.1.symm, (List.append_cancel_left hread.2).symm⟩

/-- No reference starts after one that only white space follows. -/
theorem IsPlaced.length_le {subject front ds gap front' ds' : List Char}
    (h : IsPlaced subject front ds gap) (hgap : ∀ c ∈ gap, isBlank c = true)
    (h' : IsReference subject front' ds') : front'.length ≤ front.length := by
  obtain ⟨rest, hrest⟩ := h'.form
  by_contra hlt
  rw [Nat.not_le] at hlt
  obtain ⟨mid, rfl⟩ : front <+: front' :=
    List.prefix_of_prefix_length_le ⟨_, h.2.symm⟩ ⟨_, hrest.symm⟩ hlt.le
  have hboth : front ++ ("(#".toList ++ (ds ++ (")".toList ++ gap))) =
      front ++ (mid ++ ("(#".toList ++ (ds' ++ (")".toList ++ rest)))) := by
    rw [← h.2, hrest, List.append_assoc]
  have hmid := List.append_cancel_left hboth
  -- The reference further on starts with a parenthesis, and there is none after the first one.
  cases mid with
  | nil => simp at hlt
  | cons c mid =>
    have hmem : '(' ∈ '#' :: (ds ++ ')' :: gap) := by
      have htail : '#' :: (ds ++ ')' :: gap) = mid ++ '(' :: '#' :: (ds' ++ ')' :: rest) :=
        (List.cons.inj hmid).2
      rw [htail]
      simp
    simp only [List.mem_cons, List.mem_append, Char.reduceEq, false_or] at hmem
    rcases hmem with hdigit | hblank
    · exact absurd (h.1.digits _ hdigit) (by decide)
    · exact absurd (hgap _ hblank) (by decide)

/-- The last reference of a subject stands at its end or in its midst. -/
theorem isLastReference_iff {subject : List Char} {n : Nat} :
    (∃ ds, IsLastReference subject ds ∧ Writes ds (some n)) ↔
      EndsIn subject n ∨ MentionsLast subject n := by
  constructor
  · rintro ⟨ds, ⟨front, href, hlast⟩, hwrites⟩
    obtain ⟨rest, hrest⟩ := href.form
    have hplaced : IsPlaced subject front ds rest := ⟨href.numeral, hrest⟩
    by_cases hblank : ∀ c ∈ rest, isBlank c = true
    · exact .inl ⟨front, ds, rest, hplaced, hblank, hwrites⟩
    · exact .inr ⟨front, ds, rest, hplaced, by simpa using hblank, hlast, hwrites⟩
  · rintro (hend | hmid)
    · obtain ⟨front, ds, gap, hplaced, hgap, hwrites⟩ := hend
      exact ⟨ds, ⟨front, hplaced.isReference, fun _ _ h => hplaced.length_le hgap h⟩, hwrites⟩
    · obtain ⟨front, ds, rest, hplaced, -, hlast, hwrites⟩ := hmid
      exact ⟨ds, ⟨front, hplaced.isReference, hlast⟩, hwrites⟩

theorem EndsIn.not_mentionsLast {subject : List Char} {m n : Nat} (h : EndsIn subject m) :
    ¬ MentionsLast subject n := by
  rintro ⟨front', ds', rest, hplaced', ⟨c, hc, hother⟩, hlast, -⟩
  obtain ⟨front, ds, gap, hplaced, hgap, -⟩ := h
  have hlength : front.length = front'.length :=
    Nat.le_antisymm (hlast _ _ hplaced.isReference) (hplaced.length_le hgap hplaced'.isReference)
  obtain rfl : front = front' := (List.append_inj (hplaced.2.symm.trans hplaced'.2) hlength).1
  obtain ⟨-, rfl⟩ := hplaced.unique hplaced'
  rw [hgap c hc] at hother
  cases hother

theorem EndsIn.last {subject : List Char} {n : Nat} (h : EndsIn subject n) {c : Char}
    (hc : subject.getLast? = some c) : c = ')' ∨ isBlank c = true := by
  obtain ⟨front, ds, gap, ⟨-, rfl⟩, hgap, -⟩ := h
  have hend : (')' :: gap).getLast? = some c := by
    rw [← hc, List.getLast?_append, List.getLast?_append, List.getLast?_append]
    rfl
  rcases List.mem_cons.1 (List.mem_of_getLast? hend) with hparen | hblank
  · exact .inl hparen
  · exact .inr (hgap c hblank)

theorem names_some_iff {subject : List Char} {n : Nat} :
    Names subject (some n) ↔
      (∃ ds, IsMerge subject ds ∧ Writes ds (some n)) ∨
        (∀ ds, ¬ IsMerge subject ds) ∧ (EndsIn subject n ∨ MentionsLast subject n) := by
  rw [← isLastReference_iff]
  constructor
  · intro h
    cases h with
    | merge h hr => exact .inl ⟨_, h, hr⟩
    | reference hmerge h hr => exact .inr ⟨hmerge, _, h, hr⟩
  · rintro (⟨ds, h, hr⟩ | ⟨hmerge, ds, h, hr⟩)
    · exact .merge h hr
    · exact .reference hmerge h hr

theorem mem_numbers_iff_refers {messages : List String} {n : Nat} :
    n ∈ numbers messages ↔ ∃ m ∈ messages, Refers m (some n) := by
  simp only [mem_numbers, refers_iff]

theorem refers_iff_names {message : String} {line : List Char} {r : Option Nat}
    (hline : IsSubject message.toList line) : Refers message r ↔ Names line r := by
  refine ⟨?_, fun h => ⟨line, hline, h⟩⟩
  rintro ⟨line', hline', h⟩
  rwa [← subject_of_isSubject hline, subject_of_isSubject hline']

/-- Of a subject that is not that of a merge commit the last reference counts, at the end or not. So
a message names only what its subject ends in unless its last reference stands in the midst. -/
theorem last_reference_counts_anywhere (messages : List String) :
    (∀ n, n ∈ numbers messages ↔ ∃ m ∈ messages, ∃ line, IsSubject m.toList line ∧
      ((∃ ds, IsMerge line ds ∧ Writes ds (some n)) ∨
        (∀ ds, ¬ IsMerge line ds) ∧ (EndsIn line n ∨ MentionsLast line n))) ∧
    ∀ m ∈ messages, ∀ line, IsSubject m.toList line → (∀ ds, ¬ IsMerge line ds) →
      ((∀ n ∈ numbers [m], EndsIn line n) ↔ ∀ n, ¬ MentionsLast line n) := by
  refine ⟨fun n => ?_, fun m _ line hline hmerge => ?_⟩
  · simp only [mem_numbers_iff_refers, Refers, names_some_iff]
  · have hnamed : ∀ n, n ∈ numbers [m] ↔ EndsIn line n ∨ MentionsLast line n := fun n => by
      rw [mem_numbers_iff_refers]
      simp only [List.mem_singleton, exists_eq_left, refers_iff_names hline, names_some_iff,
        hmerge, false_and, exists_false, false_or, not_false_eq_true, implies_true, true_and]
    constructor
    · intro h n hmid
      exact (h n ((hnamed n).2 (.inr hmid))).not_mentionsLast hmid
    · intro h n hn
      exact ((hnamed n).1 hn).resolve_right (h n)

/-- One subject ends in its last reference, after one to the change that it was picked from, and the
other goes on after it. -/
theorem last_references_at_end_and_quoted :
    let ended := "Fix fees (#9) (#14) "
    let quoted := "Revert \"Fix fees (#7)\" early"
    IsSubject ended.toList ended.toList ∧ (∀ ds, ¬ IsMerge ended.toList ds) ∧
      (∀ n ∈ numbers [ended], EndsIn ended.toList n) ∧ 14 ∈ numbers [ended, quoted] ∧
      IsSubject quoted.toList quoted.toList ∧ (∀ ds, ¬ IsMerge quoted.toList ds) ∧
      MentionsLast quoted.toList 7 ∧ 7 ∈ numbers [ended, quoted] := by
  intro ended quoted
  have hended : IsSubject ended.toList ended.toList := .only (by decide)
  have hquoted : IsSubject quoted.toList quoted.toList := .only (by decide)
  have hnoMerge : ∀ ds, ¬ IsMerge ended.toList ds := not_isMerge_of_none (by decide)
  have hnoMergeQuoted : ∀ ds, ¬ IsMerge quoted.toList ds := not_isMerge_of_none (by decide)
  have hfourteen : Writes ['1', '4'] (some 14) :=
    .number (List.all_eq_true.1 (by decide)) (by decide)
  have hseven : Writes ['7'] (some 7) := .number (List.all_eq_true.1 (by decide)) (by decide)
  have hend : EndsIn ended.toList 14 := by
    have hplaced : IsPlaced ended.toList "Fix fees (#9) ".toList ['1', '4'] [' '] :=
      ⟨⟨by decide, List.all_eq_true.1 (by decide)⟩, by decide⟩
    exact ⟨_, _, _, hplaced, List.all_eq_true.1 (by decide), hfourteen⟩
  have hmid : MentionsLast quoted.toList 7 := by
    have hlast : IsLastReference quoted.toList ['7'] := lastReference?_eq_some_iff.1 (by decide)
    refine (isLastReference_iff.1 ⟨['7'], hlast, hseven⟩).resolve_left fun h => ?_
    rcases h.last (c := 'y') (by decide) with hparen | hblank
    · exact absurd hparen (by decide)
    · exact absurd hblank (by decide)
  obtain ⟨hmem, hcondition⟩ := last_reference_counts_anywhere [ended, quoted]
  refine ⟨hended, hnoMerge, ?_, ?_, hquoted, hnoMergeQuoted, hmid, ?_⟩
  · exact (hcondition ended (by simp) _ hended hnoMerge).2 fun n => hend.not_mentionsLast
  · exact (hmem 14).2 ⟨ended, by simp, _, hended, .inr ⟨hnoMerge, .inl hend⟩⟩
  · exact (hmem 7).2 ⟨quoted, by simp, _, hquoted, .inr ⟨hnoMergeQuoted, .inr hmid⟩⟩

/-- A commit that takes another one back quotes its subject, and names its request. -/
theorem revert_names_quoted_request :
    let message := "Revert \"Fix fees (#7)\""
    IsSubject message.toList message.toList ∧ (∀ ds, ¬ IsMerge message.toList ds) ∧
      7 ∈ numbers [message] ∧ ¬ EndsIn message.toList 7 := by
  intro message
  refine ⟨.only (by decide), not_isMerge_of_none (by decide), by decide, fun h => ?_⟩
  rcases h.last (c := '"') (by decide) with hparen | hblank
  · exact absurd hparen (by decide)
  · exact absurd hblank (by decide)

end ReleaseBulletin.Change.Subject

import Mathlib.Data.List.Infix
import ReleaseBulletin.ChainRuntime.SpecVersion
import ReleaseBulletin.Proofs.Text.Parts

/-!
Declarations of a version in the text of a source, by their places. What is read is the number of
the first one, and nothing after its digits matters.
-/
namespace ReleaseBulletin.ChainRuntime.SpecVersion
open Text.Affix Text.Blank Text.Digit Text.Range

/-- The text after the last line feed. -/
def lastLine : List Char → List Char
  | [] => []
  | c :: cs => if '\n' ∈ c :: cs then lastLine cs else c :: cs

/-- The keyword stands after the text in front, then white space, which may go on to further lines,
and then all digits that are there, at least one. -/
structure IsField (source front digits rest : List Char) : Prop where
  nonempty : digits ≠ []
  decimal : ∀ d ∈ digits, isDecimal d = true
  ended : ∀ c, rest.head? = some c → isDecimal c = false
  form : ∃ gap, (∀ c ∈ gap, isBlank c = true) ∧
    source = front ++ (keyword ++ (gap ++ (digits ++ rest)))

/-- The keyword stands after the text in front, with white space alone before it on its line, and
then, after white space if any, a digit. -/
def IsCandidate (source front : List Char) : Prop :=
  (∀ c ∈ lastLine front, isBlank c = true) ∧
    ∃ gap d rest, (∀ c ∈ gap, isBlank c = true) ∧ isDecimal d = true ∧
      source = front ++ (keyword ++ (gap ++ d :: rest))

/-- The first candidate, with its digits and the text after them. -/
structure IsFirst (source front digits rest : List Char) : Prop
    extends IsField source front digits rest where
  indented : ∀ c ∈ lastLine front, isBlank c = true
  least : ∀ front', IsCandidate source front' → front.length ≤ front'.length

theorem mem_of_mem_lastLine {c : Char} {cs : List Char} (h : c ∈ lastLine cs) : c ∈ cs := by
  induction cs with
  | nil => exact h
  | cons d cs ih =>
    rw [lastLine] at h
    split at h
    · exact List.mem_cons_of_mem d (ih h)
    · exact h

theorem isBlank_of_isDecimal {c : Char} (h : isDecimal c = true) : isBlank c = false :=
  Ranges.contains_eq_false (by decide) h

theorem keyword_eq : keyword = 's' :: "pec_version:".toList := by decide

/-- The keyword has no part in common with another occurrence of it. -/
theorem keyword_apart {front front' tail tail' : List Char}
    (h : front ++ (keyword ++ tail) = front' ++ (keyword ++ tail'))
    (hlt : front'.length < front.length) : ∃ mid, front = front' ++ (keyword ++ mid) := by
  have hborder : ∀ shared ∈ keyword.tails, shared <+: keyword → shared = [] ∨ shared = keyword := by
    decide
  obtain ⟨mid, rfl⟩ : front' <+: front :=
    List.prefix_of_prefix_length_le ⟨_, h.symm⟩ ⟨_, rfl⟩ hlt.le
  rw [List.append_assoc] at h
  have hmid : mid ++ (keyword ++ tail) = keyword ++ tail' := List.append_cancel_left h
  rcases List.append_eq_append_iff.1 hmid with ⟨shared, hshared, htail⟩ | ⟨mid', rfl, -⟩
  · have hsuffix : shared ∈ keyword.tails := (List.mem_tails _ _).2 ⟨mid, hshared.symm⟩
    have hprefix : shared <+: keyword :=
      List.prefix_of_prefix_length_le ⟨tail', htail.symm⟩ ⟨tail, rfl⟩ (by simp [hshared])
    rcases hborder shared hsuffix hprefix with rfl | rfl
    · exact ⟨[], by rw [List.append_nil, hshared, List.append_nil]⟩
    · obtain rfl : mid = [] := by simpa using hshared
      simp at hlt
  · exact ⟨mid', rfl⟩

theorem s_mem_of_isField {source front front' digits digits' rest rest' : List Char}
    (h : IsField source front digits rest) (h' : IsField source front' digits' rest')
    (hlt : front'.length < front.length) : 's' ∈ front := by
  obtain ⟨gap, -, hform⟩ := h.form
  obtain ⟨gap', -, hform'⟩ := h'.form
  obtain ⟨mid, rfl⟩ := keyword_apart (hform.symm.trans hform') hlt
  simp [keyword_eq]

theorem IsField.not_blank {source front digits rest : List Char}
    (h : IsField source front digits rest) :
    ∀ c, (digits ++ rest).head? = some c → isBlank c = false := by
  intro c hc
  cases hdigits : digits with
  | nil => exact absurd hdigits h.nonempty
  | cons d ds =>
    obtain rfl : d = c := by simpa [hdigits] using hc
    exact isBlank_of_isDecimal (h.decimal d (by simp [hdigits]))

theorem IsField.unique {source front digits digits' rest rest' : List Char}
    (h : IsField source front digits rest) (h' : IsField source front digits' rest') :
    digits = digits' ∧ rest = rest' := by
  obtain ⟨gap, hgap, hform⟩ := h.form
  obtain ⟨gap', hgap', hform'⟩ := h'.form
  have hafter : gap ++ (digits ++ rest) = gap' ++ (digits' ++ rest') :=
    List.append_cancel_left (List.append_cancel_left (hform.symm.trans hform'))
  have hnumber : digits ++ rest = digits' ++ rest' := by
    rw [← (takeWhile_and_dropWhile.2 ⟨hafter, hgap', h'.not_blank⟩).2]
    exact (takeWhile_and_dropWhile.2 ⟨rfl, hgap, h.not_blank⟩).2.symm
  have hread := takeWhile_and_dropWhile.2 ⟨rfl, h.decimal, h.ended⟩
  have hread' := takeWhile_and_dropWhile.2 ⟨hnumber, h'.decimal, h'.ended⟩
  exact ⟨hread.1.symm.trans hread'.1, hread.2.symm.trans hread'.2⟩

theorem isCandidate_iff {source front : List Char} :
    IsCandidate source front ↔ (∀ c ∈ lastLine front, isBlank c = true) ∧
      ∃ digits rest, IsField source front digits rest := by
  refine and_congr_right fun _ => ?_
  constructor
  · rintro ⟨gap, d, rest, hgap, hd, hform⟩
    obtain ⟨hwhole, hdigits, hrest⟩ := takeWhile_and_dropWhile.1
      (⟨rfl, rfl⟩ : (d :: rest).takeWhile isDecimal = _ ∧ (d :: rest).dropWhile isDecimal = _)
    refine ⟨_, _, ?_, hdigits, hrest, gap, hgap, hwhole ▸ hform⟩
    simp [hd]
  · rintro ⟨digits, rest, hnonempty, hdecimal, -, gap, hgap, hform⟩
    cases digits with
    | nil => exact absurd rfl hnonempty
    | cons d ds => exact ⟨gap, d, ds ++ rest, hgap, hdecimal d List.mem_cons_self, hform⟩

/-- Where a line starts, a declaration starts after the white space there. -/
theorem declared?_eq_some_iff {cs digits : List Char} :
    declared? cs = some digits ↔
      ∃ blanks rest, (∀ c ∈ blanks, isBlank c = true) ∧ IsField cs blanks digits rest := by
  constructor
  · intro h
    rw [declared?] at h
    split at h
    · cases h
    · next rest hrest =>
      split at h
      · cases h
      · next hnonempty =>
        cases h
        obtain ⟨hfront, hblanks, -⟩ := takeWhile_and_dropWhile.1
          (⟨rfl, after?_eq_some_iff.1 hrest⟩ : cs.takeWhile isBlank = _ ∧ trimStart cs = _)
        obtain ⟨hafter, hgap, -⟩ := takeWhile_and_dropWhile.1
          (⟨rfl, rfl⟩ : rest.takeWhile isBlank = _ ∧ rest.dropWhile isBlank = trimStart rest)
        obtain ⟨hnumber, hdigits, hended⟩ := takeWhile_and_dropWhile.1
          (⟨rfl, rfl⟩ : (trimStart rest).takeWhile isDecimal = _ ∧ _ = _)
        refine ⟨_, _, hblanks, hnonempty, hdigits, hended, _, hgap, ?_⟩
        rw [← hnumber, ← hafter, ← hfront]
  · rintro ⟨blanks, rest, hblanks, hfield⟩
    obtain ⟨gap, hgap, hform⟩ := hfield.form
    have hkeyword : ∀ tail c, (keyword ++ tail).head? = some c → isBlank c = false := by
      rintro tail c hc
      obtain rfl : 's' = c := by simpa [keyword_eq] using hc
      decide
    have htrim : trimStart cs = keyword ++ (gap ++ (digits ++ rest)) :=
      (takeWhile_and_dropWhile.2 ⟨hform, hblanks, hkeyword _⟩).2
    have hnumber : trimStart (gap ++ (digits ++ rest)) = digits ++ rest :=
      (takeWhile_and_dropWhile.2 ⟨rfl, hgap, hfield.not_blank⟩).2
    have hdigits : (digits ++ rest).takeWhile isDecimal = digits :=
      (takeWhile_and_dropWhile.2 ⟨rfl, hfield.decimal, hfield.ended⟩).1
    rw [declared?, htrim, after?_append]
    simp only [hnumber, hdigits]
    cases digits with
    | nil => exact absurd rfl hfield.nonempty
    | cons d ds => rfl

/-- Nothing but white space stands in front on the line, which starts in the text in front or, if
the flag says so, with it. -/
def IsIndented (starts : Bool) (front : List Char) : Prop :=
  (∀ c ∈ lastLine front, isBlank c = true) ∧ (starts = true ∨ '\n' ∈ front)

theorem not_isIndented_nil : ¬ IsIndented false [] := by
  rintro ⟨-, h⟩
  simp at h

theorem isIndented_cons {starts : Bool} {c : Char} {front : List Char} :
    IsIndented starts (c :: front) ↔
      IsIndented (c == '\n') front ∨ starts = true ∧ ∀ d ∈ c :: front, isBlank d = true := by
  have hstart : ((c == '\n') = true ∨ '\n' ∈ front) ↔ '\n' ∈ c :: front := by
    rw [beq_iff_eq, List.mem_cons, eq_comm]
  by_cases hmem : '\n' ∈ c :: front
  · have hline : lastLine (c :: front) = lastLine front := if_pos hmem
    simp only [IsIndented, hline, hstart, hmem, or_true, and_true]
    refine ⟨.inl, fun h => h.elim id fun hblank d hd => ?_⟩
    exact hblank.2 d (List.mem_cons_of_mem c (mem_of_mem_lastLine hd))
  · have hline : lastLine (c :: front) = c :: front := if_neg hmem
    simp only [IsIndented, hline, hstart, hmem, or_false, and_false, false_or]
    exact and_comm

theorem not_isField_nil (front digits rest : List Char) : ¬ IsField [] front digits rest := by
  intro h
  obtain ⟨gap, -, hform⟩ := h.form
  simp [keyword_eq] at hform

theorem isField_cons {c : Char} {cs front digits rest : List Char} :
    IsField (c :: cs) (c :: front) digits rest ↔ IsField cs front digits rest := by
  constructor
  · rintro ⟨hnonempty, hdecimal, hended, gap, hgap, hform⟩
    exact ⟨hnonempty, hdecimal, hended, gap, hgap, (List.cons.inj hform).2⟩
  · rintro ⟨hnonempty, hdecimal, hended, gap, hgap, rfl⟩
    exact ⟨hnonempty, hdecimal, hended, gap, hgap, rfl⟩

theorem first?_cons (starts : Bool) (c : Char) (cs : List Char) :
    first? starts (c :: cs) =
      (if starts then declared? (c :: cs) else none).or (first? (c == '\n') cs) := by
  cases starts <;> rfl

/-- If no declaration starts here, those there are start further on. -/
theorem exists_isField_tail {starts : Bool} {c : Char} {cs front digits rest : List Char}
    (hnone : (if starts then declared? (c :: cs) else none) = none)
    (hindented : IsIndented starts front) (hfield : IsField (c :: cs) front digits rest) :
    ∃ tail, front = c :: tail ∧ IsIndented (c == '\n') tail ∧ IsField cs tail digits rest := by
  have hblank : ¬ (starts = true ∧ ∀ d ∈ front, isBlank d = true) := by
    rintro ⟨rfl, hblanks⟩
    rw [if_pos rfl, declared?_eq_some_iff.2 ⟨front, rest, hblanks, hfield⟩] at hnone
    cases hnone
  cases front with
  | nil =>
    cases starts with
    | false => exact absurd hindented not_isIndented_nil
    | true => exact absurd ⟨rfl, nofun⟩ hblank
  | cons d tail =>
    obtain ⟨gap, -, hform⟩ := hfield.form
    obtain rfl : c = d := (List.cons.inj hform).1
    exact ⟨tail, rfl, (isIndented_cons.1 hindented).resolve_right hblank, isField_cons.1 hfield⟩

theorem not_isField_of_first? {starts : Bool} {cs : List Char} (h : first? starts cs = none)
    {front digits rest : List Char} (hindented : IsIndented starts front) :
    ¬ IsField cs front digits rest := by
  induction cs generalizing starts front with
  | nil => exact not_isField_nil front digits rest
  | cons c cs ih =>
    intro hfield
    rw [first?_cons, Option.or_eq_none_iff] at h
    obtain ⟨tail, rfl, htail, hfield'⟩ := exists_isField_tail h.1 hindented hfield
    exact ih h.2 htail hfield'

theorem exists_isField_of_first? {starts : Bool} {cs digits : List Char}
    (h : first? starts cs = some digits) :
    ∃ front rest, IsIndented starts front ∧ IsField cs front digits rest ∧
      ∀ front' digits' rest', IsIndented starts front' → IsField cs front' digits' rest' →
        front.length ≤ front'.length := by
  induction cs generalizing starts with
  | nil => cases starts <;> cases h
  | cons c cs ih =>
    rw [first?_cons, Option.or_eq_some_iff] at h
    rcases h with hhere | ⟨hnone, hlater⟩
    · cases starts with
      | false => cases hhere
      | true =>
        obtain ⟨blanks, rest, hblanks, hfield⟩ := declared?_eq_some_iff.1 hhere
        refine ⟨blanks, rest, ⟨fun d hd => hblanks d (mem_of_mem_lastLine hd), .inl rfl⟩, hfield,
          fun front' digits' rest' _ hfield' => ?_⟩
        by_contra hlt
        have hmem := s_mem_of_isField hfield hfield' (Nat.lt_of_not_le hlt)
        exact absurd (hblanks 's' hmem) (by decide)
    · obtain ⟨front, rest, hindented, hfield, hleast⟩ := ih hlater
      refine ⟨c :: front, rest, isIndented_cons.2 (.inl hindented), isField_cons.2 hfield,
        fun front' digits' rest' hindented' hfield' => ?_⟩
      obtain ⟨tail, rfl, htail, htailField⟩ := exists_isField_tail hnone hindented' hfield'
      exact Nat.succ_le_succ (hleast tail digits' rest' htail htailField)

theorem isIndented_true {front : List Char} :
    IsIndented true front ↔ ∀ c ∈ lastLine front, isBlank c = true := by
  simp [IsIndented]

theorem IsFirst.isCandidate {source front digits rest : List Char}
    (h : IsFirst source front digits rest) : IsCandidate source front :=
  isCandidate_iff.2 ⟨h.indented, digits, rest, h.toIsField⟩

theorem IsFirst.unique {source front front' digits digits' rest rest' : List Char}
    (h : IsFirst source front digits rest) (h' : IsFirst source front' digits' rest') :
    front = front' ∧ digits = digits' ∧ rest = rest' := by
  have hlength : front.length = front'.length :=
    Nat.le_antisymm (h.least _ h'.isCandidate) (h'.least _ h.isCandidate)
  obtain ⟨gap, -, hform⟩ := h.form
  obtain ⟨gap', -, hform'⟩ := h'.form
  obtain rfl : front = front' := (List.append_inj (hform.symm.trans hform') hlength).1
  exact ⟨rfl, h.toIsField.unique h'.toIsField⟩

theorem first?_eq_some_iff {source digits : List Char} :
    first? true source = some digits ↔ ∃ front rest, IsFirst source front digits rest := by
  have hexists : ∀ {digits}, first? true source = some digits →
      ∃ front rest, IsFirst source front digits rest := by
    intro digits h
    obtain ⟨front, rest, hindented, hfield, hleast⟩ := exists_isField_of_first? h
    refine ⟨front, rest, hfield, isIndented_true.1 hindented, fun front' hcandidate => ?_⟩
    obtain ⟨hindented', digits', rest', hfield'⟩ := isCandidate_iff.1 hcandidate
    exact hleast front' digits' rest' (isIndented_true.2 hindented') hfield'
  refine ⟨hexists, fun ⟨front, rest, hfirst⟩ => ?_⟩
  cases h : first? true source with
  | none =>
    have hindented : IsIndented true front := isIndented_true.2 hfirst.indented
    exact absurd hfirst.toIsField (not_isField_of_first? h hindented)
  | some found =>
    obtain ⟨front', rest', hfound⟩ := hexists h
    rw [(hfound.unique hfirst).2.1]

theorem first?_eq_none_iff {source : List Char} :
    first? true source = none ↔ ∀ front, ¬ IsCandidate source front := by
  constructor
  · intro h front hcandidate
    obtain ⟨hindented, digits, rest, hfield⟩ := isCandidate_iff.1 hcandidate
    exact not_isField_of_first? h (isIndented_true.2 hindented) hfield
  · intro h
    refine Option.eq_none_iff_forall_ne_some.2 fun digits hdigits => ?_
    obtain ⟨front, rest, hfirst⟩ := first?_eq_some_iff.1 hdigits
    exact h front hfirst.isCandidate

/-- A candidate in front of a keyword does not depend on what follows that. -/
theorem IsCandidate.replace_tail {front front' tail : List Char}
    (h : IsCandidate (front ++ (keyword ++ tail)) front') (hlt : front'.length < front.length)
    (tail' : List Char) : IsCandidate (front ++ (keyword ++ tail')) front' := by
  obtain ⟨hindented, gap, d, rest, hgap, hd, hform⟩ := h
  obtain ⟨mid, rfl⟩ := keyword_apart hform hlt
  have hafter : gap ++ d :: rest = mid ++ (keyword ++ tail) := by
    simp only [List.append_assoc] at hform
    exact (List.append_cancel_left (List.append_cancel_left hform)).symm
  -- The letter that the keyword starts with is neither blank nor a digit.
  rcases List.append_eq_append_iff.1 hafter with ⟨more, rfl, hmore⟩ | ⟨more, rfl, hmore⟩
  · cases more with
    | nil =>
      obtain rfl : d = 's' := by simpa [keyword_eq] using congrArg List.head? hmore
      exact absurd hd (by decide)
    | cons x more =>
      obtain ⟨rfl, -⟩ := List.cons.inj hmore
      exact ⟨hindented, gap, d, more ++ (keyword ++ tail'), hgap, hd, by simp⟩
  · cases more with
    | nil =>
      obtain rfl : 's' = d := by simpa [keyword_eq] using congrArg List.head? hmore
      exact absurd hd (by decide)
    | cons x more =>
      obtain rfl : 's' = x := by simpa [keyword_eq] using congrArg List.head? hmore
      exact absurd (hgap 's' (by simp)) (by decide)

theorem IsFirst.replace_rest {front digits rest head : List Char}
    (h : IsFirst (head ++ rest) front digits rest) {rest' : List Char}
    (hended : ∀ c, rest'.head? = some c → isDecimal c = false) :
    IsFirst (head ++ rest') front digits rest' := by
  obtain ⟨gap, hgap, hform⟩ := h.form
  obtain rfl : head = front ++ (keyword ++ (gap ++ digits)) := by
    refine List.append_cancel_right (hform.trans ?_)
    simp only [List.append_assoc]
  have hsource : ∀ rest, front ++ (keyword ++ (gap ++ digits)) ++ rest =
      front ++ (keyword ++ (gap ++ digits ++ rest)) := fun rest => by
    simp only [List.append_assoc]
  refine ⟨⟨h.nonempty, h.decimal, hended, gap, hgap, by simp only [List.append_assoc]⟩, h.indented,
    fun front' hcandidate => ?_⟩
  by_contra hlt
  rw [hsource] at hcandidate
  have hearlier := hcandidate.replace_tail (Nat.lt_of_not_le hlt) (gap ++ digits ++ rest)
  exact hlt (h.least front' (hsource rest ▸ hearlier))

theorem ofSource?_of_isFirst {source : String} {front digits rest : List Char}
    (h : IsFirst source.toList front digits rest) :
    ofSource? source = natBelow? limit digits := by
  rw [ofSource?, first?_eq_some_iff.2 ⟨front, rest, h⟩, Option.bind_some]

theorem not_isCandidate_of_comment {source front : List Char} (h : ['/', '/'] <:+: lastLine front) :
    ¬ IsCandidate source front := by
  rintro ⟨hindented, -⟩
  exact absurd (hindented '/' (h.subset List.mem_cons_self)) (by decide)

/-- The version of a source is what the digits of its first declaration write, if they are ASCII and
the number has at most 32 bits. Later declarations do not stand in for it, what a comment goes
before on its line is none, and no text after the digits matters. -/
theorem ofSource?_reads_first_declaration (source : String) :
    ((∀ front, ¬ IsCandidate source.toList front) → ofSource? source = none) ∧
    (∀ front, IsCandidate source.toList front →
      ∃ front' digits rest, IsFirst source.toList front' digits rest) ∧
    (∀ front digits rest, IsFirst source.toList front digits rest →
      ofSource? source =
        (if digits.all Char.isDigit = true ∧ Nat.ofDigitChars 10 digits 0 < Width.count 32 then
          some (Nat.ofDigitChars 10 digits 0)
        else none) ∧
      ∀ head rest', source.toList = head ++ rest →
        (∀ c, rest'.head? = some c → isDecimal c = false) →
        ofSource? (String.ofList (head ++ rest')) = ofSource? source) ∧
    ∀ front, ['/', '/'] <:+: lastLine front → ¬ IsCandidate source.toList front := by
  refine ⟨fun hnone => ?_, fun front hcandidate => ?_, fun front digits rest hfirst => ⟨?_, ?_⟩,
    fun front => not_isCandidate_of_comment⟩
  · rw [ofSource?, first?_eq_none_iff.2 hnone, Option.bind_none]
  · cases h : first? true source.toList with
    | none => exact absurd hcandidate (first?_eq_none_iff.1 h front)
    | some digits =>
      obtain ⟨front', rest, hfirst⟩ := first?_eq_some_iff.1 h
      exact ⟨front', digits, rest, hfirst⟩
  · rw [ofSource?_of_isFirst hfirst, natBelow?_eq hfirst.nonempty, limit]
  · intro head rest' hhead hended
    have hreplaced : IsFirst (String.ofList (head ++ rest')).toList front digits rest' := by
      rw [String.toList_ofList]
      exact (hhead ▸ hfirst).replace_rest hended
    rw [ofSource?_of_isFirst hreplaced, ofSource?_of_isFirst hfirst]

/-- The first declaration goes on to another line, after one in a comment and before another. -/
theorem ofSource?_of_three_fields :
    let front := "// spec_version: 1\n  ".toList
    let head := "// spec_version: 1\n  spec_version:\n\t07".toList
    let source := String.ofList (head ++ ",\nspec_version: 9".toList)
    IsFirst source.toList front "07".toList ",\nspec_version: 9".toList ∧
      ofSource? source = some 7 ∧
      ofSource? (String.ofList (head ++ "_".toList)) = some 7 ∧
      ¬ IsCandidate source.toList "// ".toList := by
  intro front head source
  have htext : source.toList = head ++ ",\nspec_version: 9".toList := String.toList_ofList
  have hleast : ∀ k < front.length, keyword <+: source.toList.drop k →
      (lastLine (source.toList.take k)).all isBlank = false := by
    rw [htext]
    decide
  have hfirst : IsFirst source.toList front "07".toList ",\nspec_version: 9".toList := by
    refine ⟨⟨by decide, List.all_eq_true.1 (by decide), ?_, "\n\t".toList,
      List.all_eq_true.1 (by decide), by rw [htext]; decide⟩,
      List.all_eq_true.1 (by decide), fun front' hcandidate => ?_⟩
    · rintro c ⟨⟩
      decide
    · obtain ⟨hindented, gap, d, rest, -, -, hform⟩ := hcandidate
      by_contra hlt
      have hother := hleast front'.length (Nat.lt_of_not_le hlt) (by simp [hform])
      rw [hform, List.take_left, List.all_eq_true.2 hindented] at hother
      cases hother
  obtain ⟨-, -, hread, hcomment⟩ := ofSource?_reads_first_declaration source
  obtain ⟨hnumber, hreplaced⟩ := hread _ _ _ hfirst
  have hseven : ofSource? source = some 7 := hnumber.trans (by decide)
  have hended : ∀ c, "_".toList.head? = some c → isDecimal c = false := by
    rintro c ⟨⟩
    decide
  exact ⟨hfirst, hseven, (hreplaced head "_".toList htext hended).trans hseven,
    hcomment _ (by decide)⟩

end ReleaseBulletin.ChainRuntime.SpecVersion

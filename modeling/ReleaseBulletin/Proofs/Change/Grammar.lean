import Mathlib.Data.List.Forall2
import Mathlib.Data.List.ReduceOption
import Mathlib.Data.List.TakeWhile
import ReleaseBulletin.Proofs.Change.Subject
import ReleaseBulletin.Proofs.Text.Parts

/-!
The grammar of the messages that name change requests. The first line of a message names a request
as a merge commit does, or else by its last reference; digits that write no number name none. What
messages name is told by this grammar alone.
-/
namespace ReleaseBulletin.Change.Subject
open Text.Affix Text.Digit

/-- The first line of a message: the text before the first line feed, without a carriage return
right before that. -/
inductive IsSubject : List Char → List Char → Prop
  | only {line : List Char} (h : '\n' ∉ line) : IsSubject line line
  | returned {line : List Char} (h : '\n' ∉ line) (rest : List Char) :
      IsSubject (line ++ '\r' :: '\n' :: rest) line
  | first {line : List Char} (h : '\n' ∉ line) (hend : line.getLast? ≠ some '\r')
      (rest : List Char) : IsSubject (line ++ '\n' :: rest) line

/-- Digits of any script, at least one. -/
structure IsNumeral (ds : List Char) : Prop where
  nonempty : ds ≠ []
  digits : ∀ d ∈ ds, isDecimal d = true

/-- The subject of a merge commit, with the digits in it. -/
structure IsMerge (subject ds : List Char) : Prop where
  numeral : IsNumeral ds
  form : ∃ rest, subject = "Merge pull request #".toList ++ (ds ++ (" from ".toList ++ rest))

/-- A reference in a subject after some text, with the digits in it. -/
structure IsReference (subject front ds : List Char) : Prop where
  numeral : IsNumeral ds
  form : ∃ rest, subject = front ++ ("(#".toList ++ (ds ++ (")".toList ++ rest)))

/-- The digits of the reference that no other one comes after. -/
def IsLastReference (subject ds : List Char) : Prop :=
  ∃ front, IsReference subject front ds ∧
    ∀ front' ds', IsReference subject front' ds' → front'.length ≤ front.length

/-- The number that digits write. Digits of other scripts than ASCII write none, and neither do
those of a number with more than 64 bits. -/
inductive Writes (ds : List Char) : Option Nat → Prop
  | number (ascii : ∀ d ∈ ds, d.isDigit = true)
      (small : Nat.ofDigitChars 10 ds 0 < Width.count 64) :
      Writes ds (some (Nat.ofDigitChars 10 ds 0))
  | foreign (other : ∃ d ∈ ds, d.isDigit = false) : Writes ds none
  | great (ascii : ∀ d ∈ ds, d.isDigit = true) (large : Width.count 64 ≤ Nat.ofDigitChars 10 ds 0) :
      Writes ds none

/-- What a subject names. The references in the subject of a merge commit do not count. -/
inductive Names (subject : List Char) : Option Nat → Prop
  | merge {ds : List Char} {r : Option Nat} (h : IsMerge subject ds) (hr : Writes ds r) :
      Names subject r
  | reference {ds : List Char} {r : Option Nat} (hmerge : ∀ ds, ¬ IsMerge subject ds)
      (h : IsLastReference subject ds) (hr : Writes ds r) : Names subject r
  | nothing (hmerge : ∀ ds, ¬ IsMerge subject ds)
      (h : ∀ front ds, ¬ IsReference subject front ds) : Names subject none

/-- What a message names. -/
def Refers (message : String) (r : Option Nat) : Prop :=
  ∃ line, IsSubject message.toList line ∧ Names line r

theorem subject_line {line : List Char} (h : '\n' ∉ line) (rest : List Char) :
    subject (line ++ '\n' :: rest) =
      if line.getLast? = some '\r' then line.dropLast else line := by
  rw [subject, dropWhile_append_sep h, takeWhile_append_sep h]

theorem subject_of_isSubject {message line : List Char} (h : IsSubject message line) :
    subject message = line := by
  cases h with
  | only h =>
    rw [subject, dropWhile_of_not_mem h]
  | returned h rest =>
    have hline : '\n' ∉ line ++ ['\r'] := by simpa using h
    rw [show line ++ '\r' :: '\n' :: rest = (line ++ ['\r']) ++ '\n' :: rest by simp,
      subject_line hline]
    simp
  | first h hend rest => rw [subject_line h, if_neg hend]

/-- Every message has a first line. -/
theorem isSubject_subject (message : List Char) : IsSubject message (subject message) := by
  by_cases hfeed : '\n' ∈ message
  · obtain ⟨line, rest, rfl, hline⟩ := List.eq_append_cons_of_mem hfeed
    rw [subject_line hline]
    split
    · next hend =>
      obtain ⟨front, rfl⟩ := List.getLast?_eq_some_iff.1 hend
      rw [List.dropLast_concat, List.append_assoc]
      exact .returned (fun h => hline (List.mem_append_left _ h)) rest
    · next hend => exact .first hline hend rest
  · rw [subject_of_isSubject (.only hfeed)]
    exact .only hfeed

theorem digits?_eq_some_iff {cs ds rest : List Char} :
    digits? cs = some (ds, rest) ↔
      IsNumeral ds ∧ cs = ds ++ rest ∧ ∀ c, rest.head? = some c → isDecimal c = false := by
  have hparts : digits? cs = some (ds, rest) ↔
      ds ≠ [] ∧ cs.takeWhile isDecimal = ds ∧ cs.dropWhile isDecimal = rest := by
    rw [digits?]
    split
    · next hnil => simp +contextual [hnil, eq_comm]
    · next hne =>
      rw [Option.some.injEq, Prod.mk.injEq]
      exact ⟨fun h => ⟨h.1 ▸ hne, h⟩, fun h => h.2⟩
  rw [hparts, takeWhile_and_dropWhile]
  exact ⟨fun h => ⟨⟨h.1, h.2.2.1⟩, h.2.1, h.2.2.2⟩,
    fun h => ⟨h.1.nonempty, h.2.1, h.1.digits, h.2.2⟩⟩

theorem merged?_eq_some_iff {subject ds : List Char} :
    merged? subject = some ds ↔ IsMerge subject ds := by
  simp only [merged?, Option.bind_eq_bind, Option.bind_eq_some_iff, after?_eq_some_iff,
    Option.pure_def, Option.some.injEq, Prod.exists, digits?_eq_some_iff]
  constructor
  · rintro ⟨_, rfl, ds', _, ⟨hds, rfl, -⟩, rest, rfl, rfl⟩
    exact ⟨hds, rest, rfl⟩
  · rintro ⟨hds, rest, rfl⟩
    refine ⟨_, rfl, ds, _, ⟨hds, rfl, ?_⟩, rest, rfl, rfl⟩
    rintro c ⟨⟩
    decide

theorem referenceAt?_eq_some_iff {cs ds : List Char} :
    referenceAt? cs = some ds ↔ IsReference cs [] ds := by
  simp only [referenceAt?, Option.bind_eq_bind, Option.bind_eq_some_iff, after?_eq_some_iff,
    Option.pure_def, Option.some.injEq, Prod.exists, digits?_eq_some_iff]
  constructor
  · rintro ⟨_, rfl, ds', _, ⟨hds, rfl, -⟩, rest, rfl, rfl⟩
    exact ⟨hds, rest, rfl⟩
  · rintro ⟨hds, rest, rfl⟩
    refine ⟨_, rfl, ds, _, ⟨hds, rfl, ?_⟩, rest, rfl, rfl⟩
    rintro c ⟨⟩
    decide

theorem not_isReference_nil (front ds : List Char) : ¬ IsReference [] front ds := by
  rintro ⟨-, rest, h⟩
  simp at h

/-- A reference stands at the start of a text, or in what follows the first character. -/
theorem isReference_cons_iff {c : Char} {cs front ds : List Char} :
    IsReference (c :: cs) front ds ↔
      front = [] ∧ IsReference (c :: cs) [] ds ∨
        ∃ front', front = c :: front' ∧ IsReference cs front' ds := by
  constructor
  · rintro ⟨hds, rest, h⟩
    cases front with
    | nil => exact .inl ⟨rfl, hds, rest, h⟩
    | cons x front =>
      obtain ⟨rfl, hcs⟩ := List.cons.inj h
      exact .inr ⟨front, rfl, hds, rest, hcs⟩
  · rintro (⟨rfl, h⟩ | ⟨front, rfl, hds, rest, rfl⟩)
    · exact h
    · exact ⟨hds, rest, rfl⟩

theorem lastReference?_eq_none_iff {cs : List Char} :
    lastReference? cs = none ↔ ∀ front ds, ¬ IsReference cs front ds := by
  induction cs with
  | nil => simp [lastReference?, not_isReference_nil]
  | cons c cs ih =>
    rw [lastReference?, Option.or_eq_none_iff, ih]
    constructor
    · rintro ⟨hrest, hhere⟩ front ds h
      rcases isReference_cons_iff.1 h with ⟨-, h⟩ | ⟨front', -, h⟩
      · simp [referenceAt?_eq_some_iff.2 h] at hhere
      · exact hrest front' ds h
    · intro h
      refine ⟨fun front ds hr => h (c :: front) ds (isReference_cons_iff.2 (.inr ⟨_, rfl, hr⟩)), ?_⟩
      refine Option.eq_none_iff_forall_ne_some.2 fun ds hds => ?_
      exact h [] ds (referenceAt?_eq_some_iff.1 hds)

theorem lastReference?_eq_some_iff {cs ds : List Char} :
    lastReference? cs = some ds ↔ IsLastReference cs ds := by
  induction cs with
  | nil =>
    simp only [lastReference?, reduceCtorEq, false_iff]
    rintro ⟨front, h, -⟩
    exact not_isReference_nil front ds h
  | cons c cs ih =>
    rw [lastReference?, Option.or_eq_some_iff, ih, lastReference?_eq_none_iff,
      referenceAt?_eq_some_iff]
    constructor
    · rintro (⟨front, h, hlast⟩ | ⟨hnone, h⟩)
      · refine ⟨c :: front, isReference_cons_iff.2 (.inr ⟨front, rfl, h⟩), fun front' ds' h' => ?_⟩
        rcases isReference_cons_iff.1 h' with ⟨rfl, -⟩ | ⟨front', rfl, hrest⟩
        · exact Nat.zero_le _
        · exact Nat.succ_le_succ (hlast front' ds' hrest)
      · refine ⟨[], h, fun front' ds' h' => ?_⟩
        rcases isReference_cons_iff.1 h' with ⟨rfl, -⟩ | ⟨front', -, h'⟩
        · exact Nat.le_refl _
        · exact absurd h' (hnone front' ds')
    · rintro ⟨front, h, hlast⟩
      rcases isReference_cons_iff.1 h with ⟨rfl, hhere⟩ | ⟨front, rfl, hrest⟩
      · refine .inr ⟨fun front' ds' h' => ?_, hhere⟩
        have hle := hlast (c :: front') ds' (isReference_cons_iff.2 (.inr ⟨_, rfl, h'⟩))
        exact absurd hle (Nat.not_succ_le_zero _)
      · refine .inl ⟨front, hrest, fun front' ds' h' => ?_⟩
        exact Nat.le_of_succ_le_succ
          (hlast (c :: front') ds' (isReference_cons_iff.2 (.inr ⟨_, rfl, h'⟩)))

theorem Writes.eq {ds : List Char} (hds : IsNumeral ds) {r : Option Nat} (h : Writes ds r) :
    natBelow? limit ds = r := by
  rw [natBelow?_eq hds.nonempty, limit]
  cases h with
  | number ascii small => rw [if_pos ⟨List.all_eq_true.2 ascii, small⟩]
  | foreign other =>
    obtain ⟨d, hd, hforeign⟩ := other
    exact if_neg fun hboth => absurd (List.all_eq_true.1 hboth.1 d hd) (by simp [hforeign])
  | great ascii large => exact if_neg fun hboth => absurd hboth.2 (Nat.not_lt.2 large)

theorem writes_natBelow? {ds : List Char} (hds : IsNumeral ds) :
    Writes ds (natBelow? limit ds) := by
  by_cases hascii : ∀ d ∈ ds, d.isDigit = true
  · by_cases hsmall : Nat.ofDigitChars 10 ds 0 < Width.count 64
    · rw [(Writes.number hascii hsmall).eq hds]
      exact .number hascii hsmall
    · rw [(Writes.great hascii (Nat.le_of_not_lt hsmall)).eq hds]
      exact .great hascii (Nat.le_of_not_lt hsmall)
  · have hother : ∃ d ∈ ds, d.isDigit = false := by simpa using hascii
    rw [(Writes.foreign hother).eq hds]
    exact .foreign hother

theorem not_isMerge_of_none {subject : List Char} (h : merged? subject = none) (ds : List Char) :
    ¬ IsMerge subject ds := by
  intro hds
  simp [merged?_eq_some_iff.2 hds] at h

/-- The digits that stand for what a subject names. -/
def named? (subject : List Char) : Option (List Char) :=
  (merged? subject).or (lastReference? subject)

theorem names_named? (subject : List Char) :
    Names subject ((named? subject).bind (natBelow? limit)) := by
  rw [named?]
  cases hm : merged? subject with
  | some ds =>
    have hmerge := merged?_eq_some_iff.1 hm
    exact .merge hmerge (writes_natBelow? hmerge.numeral)
  | none =>
    rw [Option.none_or]
    cases hl : lastReference? subject with
    | some ds =>
      obtain ⟨front, href, hlast⟩ := lastReference?_eq_some_iff.1 hl
      exact .reference (not_isMerge_of_none hm) ⟨front, href, hlast⟩ (writes_natBelow? href.numeral)
    | none => exact .nothing (not_isMerge_of_none hm) (lastReference?_eq_none_iff.1 hl)

theorem Names.eq {subject : List Char} {r : Option Nat} (h : Names subject r) :
    (named? subject).bind (natBelow? limit) = r := by
  have hnone : (∀ ds, ¬ IsMerge subject ds) → merged? subject = none := fun hmerge =>
    Option.eq_none_iff_forall_ne_some.2 fun ds hds => hmerge ds (merged?_eq_some_iff.1 hds)
  rw [named?]
  cases h with
  | merge h hr =>
    rw [merged?_eq_some_iff.2 h, Option.some_or, Option.bind_some]
    exact hr.eq h.numeral
  | reference hmerge h hr =>
    have hdigits := lastReference?_eq_some_iff.2 h
    obtain ⟨front, href, -⟩ := h
    rw [hnone hmerge, Option.none_or, hdigits, Option.bind_some]
    exact hr.eq href.numeral
  | nothing hmerge h =>
    rw [hnone hmerge, Option.none_or, lastReference?_eq_none_iff.2 h, Option.bind_none]

/-- What a message names is one thing, and it is what the grammar tells. -/
theorem refers_iff {message : String} {r : Option Nat} :
    Refers message r ↔ number? message.toList = r := by
  constructor
  · rintro ⟨line, hline, hnames⟩
    rw [number?, subject_of_isSubject hline]
    exact hnames.eq
  · rintro rfl
    exact ⟨_, isSubject_subject message.toList, names_named? _⟩

/-- A character put after a text is no part of what the text starts with, if that ends with another
character. -/
theorem exists_append_concat (front cs : List Char) {c d : Char} (hcd : d ≠ c) :
    (∃ rest, cs ++ [c] = front ++ d :: rest) ↔ ∃ rest, cs = front ++ d :: rest := by
  constructor
  · rintro ⟨rest, h⟩
    rcases List.eq_nil_or_concat rest with rfl | ⟨rest, x, rfl⟩
    · exact absurd (List.append_inj' h rfl).2 (by simpa using hcd.symm)
    · rw [List.concat_eq_append, ← List.cons_append, ← List.append_assoc] at h
      exact ⟨rest, (List.append_inj' h rfl).1⟩
  · rintro ⟨rest, rfl⟩
    exact ⟨rest ++ [c], List.append_assoc ..⟩

theorem isMerge_concat_iff {line ds : List Char} :
    IsMerge (line ++ ['\r']) ds ↔ IsMerge line ds := by
  have hform := exists_append_concat ("Merge pull request #".toList ++ (ds ++ " from".toList)) line
    (show ' ' ≠ '\r' by decide)
  simp only [List.append_assoc] at hform
  exact ⟨fun h => ⟨h.numeral, hform.1 h.form⟩, fun h => ⟨h.numeral, hform.2 h.form⟩⟩

theorem isReference_concat_iff {line front ds : List Char} :
    IsReference (line ++ ['\r']) front ds ↔ IsReference line front ds := by
  have hform := exists_append_concat (front ++ ("(#".toList ++ ds)) line
    (show ')' ≠ '\r' by decide)
  simp only [List.append_assoc] at hform
  exact ⟨fun h => ⟨h.numeral, hform.1 h.form⟩, fun h => ⟨h.numeral, hform.2 h.form⟩⟩

/-- A carriage return at the end of a line changes nothing about what the line names. -/
theorem named?_concat (line : List Char) : named? (line ++ ['\r']) = named? line := by
  have hmerged : merged? (line ++ ['\r']) = merged? line := by
    ext ds
    rw [merged?_eq_some_iff, merged?_eq_some_iff, isMerge_concat_iff]
  have hlast : lastReference? (line ++ ['\r']) = lastReference? line := by
    ext ds
    rw [lastReference?_eq_some_iff, lastReference?_eq_some_iff]
    simp only [IsLastReference, isReference_concat_iff]
  rw [named?, named?, hmerged, hlast]

/-- The text of a message before its first line feed. -/
def firstLine (message : String) : String := String.ofList (message.toList.takeWhile (· != '\n'))

/-- What a message names does not depend on anything after its first line. -/
theorem number?_firstLine (message : String) :
    number? (firstLine message).toList = number? message.toList := by
  have hwhole : ∀ line : List Char, '\n' ∉ line →
      number? line = (named? line).bind (natBelow? limit) := fun line hline => by
    rw [number?, subject_of_isSubject (.only hline), named?]
  rw [firstLine, String.toList_ofList]
  by_cases hfeed : '\n' ∈ message.toList
  · obtain ⟨line, rest, hmessage, hline⟩ := List.eq_append_cons_of_mem hfeed
    rw [hmessage, takeWhile_append_sep hline, hwhole line hline]
    simp only [number?, subject_line hline]
    split
    · next hend =>
      obtain ⟨front, rfl⟩ := List.getLast?_eq_some_iff.1 hend
      rw [named?_concat, List.dropLast_concat, named?]
    · rfl
  · rw [takeWhile_of_not_mem hfeed]

theorem numbers_firstLine (messages : List String) :
    numbers (messages.map firstLine) = numbers messages := by
  simp only [numbers, List.filterMap_map, Function.comp_def, number?_firstLine]

theorem distinct_congr {seen seen' : List Nat} (h : ∀ n, n ∈ seen ↔ n ∈ seen') (ns : List Nat) :
    distinct seen ns = distinct seen' ns := by
  rw [distinct_eq, distinct_eq]
  simp only [h]

/-- Of what was seen already, nothing comes again. -/
theorem distinct_filter (seen more ns : List Nat) :
    distinct (more ++ seen) ns = (distinct more ns).filter (· ∉ seen) := by
  induction ns generalizing more with
  | nil => rfl
  | cons n ns ih =>
    by_cases hmore : n ∈ more
    · rw [distinct, if_pos (List.mem_append_left seen hmore), distinct, if_pos hmore, ih]
    · by_cases hseen : n ∈ seen
      · have hsame : ∀ m, m ∈ more ++ seen ↔ m ∈ n :: more ++ seen := fun m => by
          simp only [List.cons_append, List.mem_cons, List.mem_append]
          exact ⟨.inr, fun h => h.elim (fun e => .inr (e ▸ hseen)) id⟩
        rw [distinct, if_pos (List.mem_append_right more hseen), distinct, if_neg hmore,
          List.filter_cons_of_neg (by simpa using hseen), ← ih, distinct_congr hsame]
      · rw [distinct, if_neg (by simp [hmore, hseen]), distinct, if_neg hmore,
          List.filter_cons_of_pos (by simpa using hseen), ← ih, List.cons_append]

theorem distinct_append (seen xs ys : List Nat) :
    distinct seen (xs ++ ys) = distinct seen xs ++ distinct (xs ++ seen) ys := by
  induction xs generalizing seen with
  | nil => rfl
  | cons x xs ih =>
    rw [List.cons_append, distinct, distinct]
    split
    · next hx =>
      rw [ih]
      congr 1
      refine distinct_congr (fun n => ?_) ys
      simp only [List.cons_append, List.mem_cons, List.mem_append]
      exact ⟨.inr, fun h => h.elim (fun e => .inr (e ▸ hx)) id⟩
    · rw [ih, List.cons_append]
      congr 2
      refine distinct_congr (fun n => ?_) ys
      simp only [List.cons_append, List.mem_cons, List.mem_append]
      exact or_left_comm

theorem numbers_append (xs ys : List String) :
    numbers (xs ++ ys) = numbers xs ++ (numbers ys).filter (· ∉ numbers xs) := by
  have hmem : ∀ n, n ∈ xs.filterMap (fun m => number? m.toList) ↔ n ∈ numbers xs := fun n => by
    rw [numbers_eq, List.mem_eraseDups]
  rw [numbers, List.filterMap_append, distinct_append, List.append_nil, distinct_congr hmem,
    ← List.nil_append (numbers xs), distinct_filter]
  rfl

/-- The numbers that messages name are told by the grammar of subjects: each number once, where it
is named first. Nothing after the first line of a message counts, and messages that come after
others add the numbers that those did not name. -/
theorem numbers_follow_grammar :
    (∀ message, ∃! r, Refers message r) ∧
      ∀ messages : List String,
        (∃ named, List.Forall₂ Refers messages named ∧
          numbers messages = named.reduceOption.eraseDups) ∧
        (numbers messages).Nodup ∧
        numbers (messages.map firstLine) = numbers messages ∧
        ∀ more, numbers (messages ++ more) =
          numbers messages ++ (numbers more).filter (· ∉ numbers messages) := by
  refine ⟨fun message => ?_, fun messages => ⟨?_, nodup_numbers messages,
    numbers_firstLine messages, numbers_append messages⟩⟩
  · exact ⟨number? message.toList, refers_iff.2 rfl, fun r hr => (refers_iff.1 hr).symm⟩
  · refine ⟨messages.map fun m => number? m.toList, ?_, ?_⟩
    · rw [List.forall₂_map_right_iff, List.forall₂_same]
      exact fun m _ => refers_iff.2 rfl
    · rw [numbers_eq, List.reduceOption, List.filterMap_map]
      rfl

end ReleaseBulletin.Change.Subject

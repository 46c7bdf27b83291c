import ReleaseBulletin.Proofs.Text.Digits
import ReleaseBulletin.Proofs.Text.Parts
import ReleaseBulletin.Proofs.Toml.Written

/-!
Values that stand on one line of TOML: quoted texts, truth values, numbers, and lists of texts. A
written value is read back up to the end of its line.
-/
namespace ReleaseBulletin.Toml
open Document

/-- Line ends do not stand inside of quotes. -/
theorem Quoted.not_mem_quote (cs : List Char) : '\r' ∉ quote cs := by
  have hdigit : ∀ n < 16, Text.Radix.upperDigit n ≠ '\r' := by decide
  have hescape (c : Char) : '\r' ∉ escape c := by
    unfold escape
    split_ifs with hquote hslash hcontrol
    · decide
    · decide
    · have hhigh := hdigit (c.toNat / 16) (by omega)
      have hlow := hdigit (c.toNat % 16) (by omega)
      simp [hhigh.symm, hlow.symm]
    · intro hmem
      rw [← List.mem_singleton.1 hmem] at hcontrol
      exact hcontrol (.inl (by decide))
  simp [quote, hescape]

namespace Scalar
open Text Text.Digit

section Number

variable (n : Nat)

theorem grouped?_toDigits :
    grouped? Char.isDigit (Nat.toDigits 10 n) = some (Nat.toDigits 10 n) := by
  have hsplit : Affix.split '_' (Nat.toDigits 10 n) = [Nat.toDigits 10 n] :=
    Affix.split_of_not_mem (not_mem_toDigits n (by decide))
  have hall : (Nat.toDigits 10 n).all Char.isDigit = true :=
    List.all_eq_true.2 fun c => isDigit_toDigits n
  rw [grouped?, hsplit]
  simp [hall]

theorem decimalDigits?_toDigits :
    decimalDigits? (Nat.toDigits 10 n) = some (Nat.toDigits 10 n) := by
  rw [decimalDigits?, grouped?_toDigits]
  simp only [Option.bind_eq_bind, Option.bind_some]
  split
  · next d ds hzero =>
    -- More than one digit means that the number is not zero.
    rcases Nat.eq_zero_or_pos n with rfl | hpos
    · cases hzero
    · exact absurd (by rw [hzero]; rfl) (head?_toDigits hpos)
  · rfl

theorem integer?_toDigits {n : Nat} (h : n < Width.count 63) :
    integer? (Nat.toDigits 10 n) = some (.integer n) := by
  have hbounded : bounded? n = some (.integer n) := by
    have hholds : Width.holdsSigned 64 (n : Int) = true := by
      simp only [Width.holdsSigned, Width.leastSigned, Width.greatestSigned, Nat.reduceSub,
        Bool.and_eq_true]
      exact ⟨decide_eq_true (by omega), decide_eq_true (by omega)⟩
    rw [bounded?, if_pos hholds]
  have hletter {c : Char} (hc : c.isDigit = false) (ds : List Char) :
      Nat.toDigits 10 n ≠ '0' :: c :: ds := fun he =>
    not_mem_toDigits n hc (by simp [he])
  have hsigned : Digit.signed (Nat.toDigits 10 n) = (false, Nat.toDigits 10 n) := by
    rw [Digit.signed.eq_def]
    split
    · next he => exact absurd (by simp [he]) (not_mem_toDigits n (c := '+') (by decide))
    · next he => exact absurd (by simp [he]) (not_mem_toDigits n (c := '-') (by decide))
    · rfl
  rw [integer?.eq_def]
  split
  · next he => exact absurd he (hletter (by decide) _)
  · next he => exact absurd he (hletter (by decide) _)
  · next he => exact absurd he (hletter (by decide) _)
  · rw [hsigned]
    simp only [decimalDigits?_toDigits, Option.bind_some, Nat.ofDigitChars_ten_toDigits]
    exact hbounded

theorem isDate_of_not_mem {cs : List Char} (h : '-' ∉ cs) : isDate cs = false := by
  rw [isDate, Affix.split_of_not_mem h]

theorem isMoment_toDigits : isMoment (Nat.toDigits 10 n) = false := by
  have hdash : '-' ∉ Nat.toDigits 10 n := not_mem_toDigits n (by decide)
  have htime : isTime (Nat.toDigits 10 n) = false := by
    rw [isTime, Affix.split_of_not_mem (not_mem_toDigits n (by decide))]
  have hdate : isDate ((Nat.toDigits 10 n).take 10) = false :=
    isDate_of_not_mem fun hmem => hdash (List.mem_of_mem_take hmem)
  rw [isMoment, htime, hdate]
  rfl

theorem scan_toDigits {n : Nat} (h : n < Width.count 63) (rest : List Char) :
    scan (Nat.toDigits 10 n ++ '\n' :: rest) = some (.integer n, '\n' :: rest) := by
  have hchars : ∀ c ∈ Nat.toDigits 10 n, isScalarChar c = true := by
    intro c hc
    simp [isScalarChar, Char.isAlphanum, isDigit_toDigits n hc]
  have htake : (Nat.toDigits 10 n ++ '\n' :: rest).takeWhile isScalarChar = Nat.toDigits 10 n ∧
      (Nat.toDigits 10 n ++ '\n' :: rest).dropWhile isScalarChar = '\n' :: rest := by
    refine Affix.takeWhile_and_dropWhile.2 ⟨rfl, hchars, fun c hc => ?_⟩
    cases hc
    rfl
  have hdate : isDate (Nat.toDigits 10 n) = false :=
    isDate_of_not_mem (not_mem_toDigits n (by decide))
  have hword {w : String} {c : Char} (hc : c ∈ w.toList) (hletter : c.isDigit = false) :
      Nat.toDigits 10 n ≠ w.toList := fun he => not_mem_toDigits n hletter (he ▸ hc)
  have htree : tree? (Nat.toDigits 10 n) = some (.integer n) := by
    rw [tree?, if_neg (hword (c := 'e') (by decide) (by decide)),
      if_neg (hword (c := 'e') (by decide) (by decide)), isMoment_toDigits, if_neg (by decide),
      integer?_toDigits h, Option.some_or]
  rw [scan]
  simp only [htake, hdate, Bool.false_and, Bool.false_eq_true, if_false, htree, Option.map_some]

end Number

end Scalar

/-- A value that is written on one line. -/
inductive Datum where
  | text (s : String)
  | boolean (b : Bool)
  | number (n : Nat) (bound : n < Width.count 63)
  | texts (items : List String)

namespace Datum
open Reader

def tree : Datum → Tree
  | .text s => .text s
  | .boolean b => .boolean b
  | .number n _ => .integer n
  | .texts items => .list (items.map .text)

/-- Quoted texts with a comma and a space between neighbours. -/
def listed (items : List String) : List Char :=
  Text.Affix.joined [',', ' '] (items.map fun s => Quoted.quote s.toList)

def chars : Datum → List Char
  | .text s => Quoted.quote s.toList
  | .boolean b => if b then "true".toList else "false".toList
  | .number n _ => Nat.toDigits 10 n
  | .texts items => '[' :: (listed items ++ [']'])

theorem listed_cons_cons (s t : String) (items : List String) :
    listed (s :: t :: items) = Quoted.quote s.toList ++ ',' :: ' ' :: listed (t :: items) := by
  simp [listed, Text.Affix.joined]

theorem exists_listed_cons (s : String) (items : List String) :
    ∃ cs, listed (s :: items) = '"' :: cs := by
  cases items with
  | nil => exact ⟨_, rfl⟩
  | cons t items => exact ⟨_, by rw [listed_cons_cons, Quoted.quote, List.cons_append,
      List.cons_append]⟩

theorem skipLines_quote (cs : List Char) : skipLines false ('"' :: cs) = some ('"' :: cs) :=
  skipLines_start (by decide) (by decide) (by decide) cs

/-- Each of the texts takes one unit of fuel, and the last of them one more. -/
theorem elements_listed (spare depth : Nat) (s : String) (items : List String) (rest : List Char) :
    elements (spare + items.length + 2) depth (listed (s :: items) ++ ']' :: rest) =
      some ((s :: items).map .text, rest) := by
  induction items generalizing s with
  | nil =>
    have hvalue := value_quoted spare depth s.toList
      (show (']' :: rest).head? ≠ some '"' by simp)
    have hend : skipLines false (']' :: rest) = some (']' :: rest) :=
      skipLines_start (by decide) (by decide) (by decide) rest
    rw [String.ofList_toList] at hvalue
    rw [elements]
    simp only [List.length_nil, Nat.add_zero, listed, List.map_cons, List.map_nil,
      Text.Affix.joined, hvalue, hend]
  | cons t items ih =>
    obtain ⟨cs, hcs⟩ := exists_listed_cons t items
    have hvalue := value_quoted (spare + items.length + 1) depth s.toList
      (show (',' :: ' ' :: (listed (t :: items) ++ ']' :: rest)).head? ≠ some '"' by simp)
    have hcomma : skipLines false (',' :: ' ' :: (listed (t :: items) ++ ']' :: rest)) =
        some (',' :: ' ' :: (listed (t :: items) ++ ']' :: rest)) :=
      skipLines_start (by decide) (by decide) (by decide) _
    have hspace : skipLines false (' ' :: (listed (t :: items) ++ ']' :: rest)) =
        some ('"' :: (cs ++ ']' :: rest)) := by
      rw [hcs, List.cons_append]
      exact skipLines_quote _
    have hrest := ih t
    rw [String.ofList_toList] at hvalue
    rw [hcs, List.cons_append] at hrest
    -- One unit of fuel is for this text; the others are for what follows its comma.
    rw [listed_cons_cons, List.append_assoc, List.cons_append, List.cons_append,
      List.length_cons, ← Nat.add_assoc, elements]
    simp only [hvalue, hcomma, hspace]
    change (elements (spare + items.length + 2) depth ('"' :: (cs ++ ']' :: rest))).map _ = _
    rw [hrest]
    rfl

theorem length_listed (items : List String) : items.length ≤ (listed items).length := by
  induction items with
  | nil => exact Nat.le_refl 0
  | cons s items ih =>
    cases items with
    | nil => simp [listed, Text.Affix.joined, Quoted.quote]
    | cons t items =>
      rw [listed_cons_cons]
      simp only [List.length_append, List.length_cons] at ih ⊢
      omega

/-- A list of texts is read with as much fuel as its text is long. -/
theorem value_texts {fuel : Nat} (depth : Nat) (items : List String) (rest : List Char)
    (hfuel : (listed items).length + 2 ≤ fuel) :
    value (fuel + 1) (depth + 1) ('[' :: (listed items ++ ']' :: rest)) =
      some (.list (items.map .text), rest) := by
  cases items with
  | nil =>
    have hend : skipLines false (']' :: rest) = some (']' :: rest) :=
      skipLines_start (by decide) (by decide) (by decide) rest
    rw [value.eq_def]
    simp only [listed, List.map_nil, Text.Affix.joined, List.nil_append, hend]
  | cons s items =>
    have hlength := length_listed (s :: items)
    obtain ⟨spare, rfl⟩ := Nat.exists_eq_add_of_le'
      (show items.length + 2 ≤ fuel by rw [List.length_cons] at hlength; omega)
    have helements := elements_listed spare depth s items rest
    obtain ⟨cs, hcs⟩ := exists_listed_cons s items
    rw [hcs, List.cons_append] at helements ⊢
    rw [Nat.add_assoc] at helements
    rw [value.eq_def]
    simp only [skipLines_quote]
    change (elements (spare + (items.length + 2)) depth ('"' :: (cs ++ ']' :: rest))).map _ = _
    rw [helements]
    rfl

/-- Other values than lists, inline tables and texts are scalars. -/
theorem value_scalar (fuel depth : Nat) {c : Char} (hlist : c ≠ '[') (htable : c ≠ '\x7b')
    (hbasic : c ≠ '"') (hliteral : c ≠ '\'') (cs : List Char) :
    value (fuel + 1) depth (c :: cs) = Scalar.scan (c :: cs) := by
  rw [value.eq_def]
  dsimp only
  split
  · next he => exact absurd (List.cons.inj he).1 hlist
  · next he => exact absurd (List.cons.inj he).1 htable
  · next he => exact absurd (List.cons.inj he).1 hbasic
  · next he => exact absurd (List.cons.inj he).1 hliteral
  · rfl

theorem value_chars (d : Datum) (depth : Nat) (rest : List Char) :
    value (2 * (d.chars ++ '\n' :: rest).length + 2) (depth + 1) (d.chars ++ '\n' :: rest) =
      some (d.tree, '\n' :: rest) := by
  cases d with
  | text s =>
    have hread := value_quoted (2 * (Quoted.quote s.toList ++ '\n' :: rest).length + 1) (depth + 1)
      s.toList (show ('\n' :: rest).head? ≠ some '"' by simp)
    rw [String.ofList_toList] at hread
    exact hread
  | boolean b =>
    rw [value.eq_def]
    cases b <;> rfl
  | number n h =>
    have hscan := Scalar.scan_toDigits h rest
    obtain ⟨c, cs, hcs⟩ := List.exists_cons_of_ne_nil (Nat.toDigits_ne_nil (n := n) (b := 10))
    have hdigit : c.isDigit = true := Text.Digit.isDigit_toDigits n (by simp [hcs])
    have hstart {d : Char} (hd : d.isDigit = false) : c ≠ d := by
      rintro rfl
      rw [hd] at hdigit
      cases hdigit
    -- A digit starts neither a list nor an inline table nor a text.
    rw [hcs, List.cons_append] at hscan
    rw [chars, hcs, List.cons_append, value_scalar _ _ (hstart (by decide)) (hstart (by decide))
      (hstart (by decide)) (hstart (by decide))]
    exact hscan
  | texts items =>
    have hfuel : (listed items).length + 2 ≤
        2 * (chars (.texts items) ++ '\n' :: rest).length + 1 := by
      simp only [chars, List.length_append, List.length_cons, List.length_nil]
      omega
    have hread := value_texts depth items ('\n' :: rest) hfuel
    rw [chars, List.cons_append, List.append_assoc, List.singleton_append] at hread ⊢
    exact hread

theorem exists_chars_cons (d : Datum) :
    ∃ c cs, d.chars = c :: cs ∧ Quoted.isSpace c = false := by
  cases d with
  | text s => exact ⟨'"', _, rfl, by decide⟩
  | boolean b =>
    cases b
    · exact ⟨'f', _, rfl, by decide⟩
    · exact ⟨'t', _, rfl, by decide⟩
  | number n h =>
    obtain ⟨c, cs, hcs⟩ := List.exists_cons_of_ne_nil (Nat.toDigits_ne_nil (n := n) (b := 10))
    have hspace : c ≠ ' ' := fun he =>
      Text.Digit.not_mem_toDigits n (c := ' ') (by decide) (by simp [hcs, he])
    have htab : c ≠ '\t' := fun he =>
      Text.Digit.not_mem_toDigits n (c := '\t') (by decide) (by simp [hcs, he])
    exact ⟨c, cs, hcs, by simp [Quoted.isSpace, hspace, htab]⟩
  | texts items => exact ⟨'[', _, rfl, by decide⟩

theorem not_mem_chars (d : Datum) : '\r' ∉ d.chars := by
  have hlisted (items : List String) : '\r' ∉ listed items := by
    induction items with
    | nil => simp [listed, Text.Affix.joined]
    | cons s items ih =>
      cases items with
      | nil => simpa [listed, Text.Affix.joined] using Quoted.not_mem_quote s.toList
      | cons t items => simp [listed_cons_cons, Quoted.not_mem_quote, ih]
  cases d with
  | text s => exact Quoted.not_mem_quote s.toList
  | boolean b => cases b <;> decide
  | number n h => exact Text.Digit.not_mem_toDigits n (by decide)
  | texts items => simp [chars, hlisted]

end Datum

end ReleaseBulletin.Toml

import Mathlib.Tactic.SplitIfs
import ReleaseBulletin.Json.Printer
import ReleaseBulletin.Proofs.Text.Digits
import ReleaseBulletin.Proofs.Text.Parts

/-!
Trees that are written as JSON are read back, unless there is something in them that JSON has no
exact form for.
-/
namespace ReleaseBulletin.Json
open Document

namespace Quoted
open Text.Radix

section Scan

variable {cs rest : List Char} {es : List Element} (h : scan cs = some (es, rest))
include h

theorem scan_short {x c : Char} (hx : short? x = some c) :
    scan ('\\' :: x :: cs) = some (.char c :: es, rest) := by
  have hu : x ≠ 'u' := by
    rintro rfl
    cases hx
  rw [scan.eq_def]
  split
  · cases ‹_›
  · next he => cases (List.cons.inj he).1
  · next he => exact absurd (List.cons.inj (List.cons.inj he).2).1 hu
  · next he =>
    obtain ⟨rfl, rfl⟩ := List.cons.inj (List.cons.inj he).2
    rw [hx, h]
  · next hshort he =>
    exact (hshort x cs (List.cons.inj he).1.symm (List.cons.inj he).2.symm).elim

theorem scan_unit {a b c d : Char} {n : Nat} (hn : natOf? 16 [a, b, c, d] = some n) :
    scan ('\\' :: 'u' :: a :: b :: c :: d :: cs) = some (.unit n :: es, rest) := by
  rw [scan, hn, h]

theorem scan_plain {c : Char} (hquote : c ≠ '"') (hslash : c ≠ '\\') (hcontrol : ¬ c.toNat < 0x20) :
    scan (c :: cs) = some (.char c :: es, rest) := by
  rw [scan.eq_def]
  split
  · cases ‹_›
  · next he => exact absurd (List.cons.inj he).1 hquote
  · next he => exact absurd (List.cons.inj he).1 hslash
  · next he => exact absurd (List.cons.inj he).1 hslash
  · next he =>
    obtain ⟨rfl, rfl⟩ := List.cons.inj he
    rw [if_neg (by simp [hcontrol, hslash]), h]
    rfl

end Scan

theorem natOf?_hexByte : ∀ n < 32,
    natOf? 16 ['0', '0', Nat.digitChar (n / 16), Nat.digitChar (n % 16)] = some n := by decide

/-- A written character is scanned as one element, which stands for that character. -/
theorem scan_escape (c : Char) {cs rest : List Char} {es : List Element}
    (h : scan cs = some (es, rest)) :
    ∃ e, scan (escape c ++ cs) = some (e :: es, rest) ∧
      text? (e :: es) = (text? es).map (c :: ·) := by
  unfold escape
  split_ifs with hquote hslash hb hf hn hr ht hcontrol
  · exact ⟨.char '"', scan_short h rfl, by rw [text?, hquote]⟩
  · exact ⟨.char '\\', scan_short h rfl, by rw [text?, hslash]⟩
  · exact ⟨.char '\x08', scan_short h rfl, by rw [text?, hb]⟩
  · exact ⟨.char '\x0c', scan_short h rfl, by rw [text?, hf]⟩
  · exact ⟨.char '\n', scan_short h rfl, by rw [text?, hn]⟩
  · exact ⟨.char '\r', scan_short h rfl, by rw [text?, hr]⟩
  · exact ⟨.char '\t', scan_short h rfl, by rw [text?, ht]⟩
  · refine ⟨.unit c.toNat, scan_unit h (natOf?_hexByte _ hcontrol), ?_⟩
    have hhigh : isHigh c.toNat = false := by
      simp only [isHigh, Bool.and_eq_false_iff, decide_eq_false_iff_not]
      omega
    have hlow : isLow c.toNat = false := by
      simp only [isLow, Bool.and_eq_false_iff, decide_eq_false_iff_not]
      omega
    rw [text?.eq_def]
    simp only [hhigh, hlow, Bool.false_eq_true, if_false, Char.ofNat_toNat]
  · exact ⟨.char c, scan_plain h hquote hslash hcontrol, by rw [text?]⟩

theorem scan_quote (cs rest : List Char) :
    ∃ es, scan (cs.flatMap escape ++ '"' :: rest) = some (es, rest) ∧ text? es = some cs := by
  induction cs with
  | nil => exact ⟨[], rfl, rfl⟩
  | cons c cs ih =>
    obtain ⟨es, hes, htext⟩ := ih
    obtain ⟨e, he, hchar⟩ := scan_escape c hes
    refine ⟨e :: es, ?_, by rw [hchar, htext, Option.map_some]⟩
    rw [List.flatMap_cons, List.append_assoc, he]

end Quoted

/-- A text that does not go on with more of a number. -/
def Ends (rest : List Char) : Prop :=
  ∀ c, rest.head? = some c → c.isDigit = false ∧ c ≠ '.' ∧ c ≠ 'e' ∧ c ≠ 'E'

theorem ends_nil : Ends [] := nofun

theorem ends_cons {c : Char} (h : c ∈ [',', ']', '}']) (rest : List Char) : Ends (c :: rest) := by
  rintro _ ⟨⟩
  simp only [List.mem_cons, List.not_mem_nil, or_false] at h
  rcases h with rfl | rfl | rfl <;> decide

namespace Numeral
open Text.Digit

section

variable {rest : List Char} (h : Ends rest)
include h

theorem spanDigits_toDigits (n : Nat) :
    spanDigits (Nat.toDigits 10 n ++ rest) = (Nat.toDigits 10 n, rest) := by
  obtain ⟨htake, hdrop⟩ := Text.Affix.takeWhile_and_dropWhile.2
    ⟨rfl, fun _ => isDigit_toDigits n, fun c hc => (h c hc).1⟩
  rw [spanDigits, htake, hdrop]

theorem scanWhole_toDigits (n : Nat) :
    scanWhole (Nat.toDigits 10 n ++ rest) = some (Nat.toDigits 10 n, rest) := by
  rw [scanWhole, spanDigits_toDigits h]
  split
  · next he => exact absurd (Prod.mk.inj he).1 Nat.toDigits_ne_nil
  · next he => rw [(Prod.mk.inj he).1, (Prod.mk.inj he).2]
  · next hlone he =>
    -- More digits after a zero would be those of a number greater than zero.
    obtain ⟨hdigits, rfl⟩ := Prod.mk.inj he
    rcases Nat.eq_zero_or_pos n with rfl | hpos
    · exact (hlone (List.cons.inj hdigits).2.symm).elim
    · exact absurd (by rw [hdigits]; rfl) (head?_toDigits hpos)
  · next he => rw [(Prod.mk.inj he).1, (Prod.mk.inj he).2]

theorem scanFraction_of_ends : scanFraction rest = some (none, rest) := by
  cases rest with
  | nil => rfl
  | cons c rest =>
    rw [scanFraction.eq_def]
    split
    · next he => exact absurd (List.cons.inj he).1 (h c rfl).2.1
    · rfl

theorem scanExponent_of_ends : scanExponent rest = some (none, rest) := by
  cases rest with
  | nil => rfl
  | cons c rest =>
    rw [scanExponent.eq_def]
    exact if_neg (not_or.2 (h c rfl).2.2)

theorem scan_integer (i : Int) :
    scan (Printer.integer i ++ rest) =
      some (⟨decide (i < 0), Nat.toDigits 10 i.natAbs, none, none⟩, rest) := by
  have hwhole := scanWhole_toDigits h i.natAbs
  by_cases hi : i < 0
  · have hminus : Printer.integer i ++ rest = '-' :: (Nat.toDigits 10 i.natAbs ++ rest) := by
      simp [Printer.integer, hi]
    rw [hminus, scan]
    simp [hi, hwhole, scanFraction_of_ends h, scanExponent_of_ends h]
  · have hplain : Printer.integer i ++ rest = Nat.toDigits 10 i.natAbs ++ rest := by
      simp [Printer.integer, hi]
    rw [hplain, scan]
    · simp [hi, hwhole, scanFraction_of_ends h, scanExponent_of_ends h]
    · intro cs hcs
      obtain ⟨d, ds, hds⟩ :=
        List.exists_cons_of_ne_nil (Nat.toDigits_ne_nil (n := i.natAbs) (b := 10))
      have hdash : '-' ∉ Nat.toDigits 10 i.natAbs := not_mem_toDigits _ (by decide)
      rw [hds, List.cons_append] at hcs
      exact hdash (by simp [hds, (List.cons.inj hcs).1])

end

/-- An integer that 64 bits hold, with a sign or without. -/
def Holds (i : Int) : Prop := Width.leastSigned 64 ≤ i ∧ i < Width.count 64

theorem tree_integer {i : Int} (h : Holds i) :
    tree ⟨decide (i < 0), Nat.toDigits 10 i.natAbs, none, none⟩ = .integer i := by
  have hleast : -(Width.count 63 : Int) ≤ i := h.1
  have hlimit : i < Width.count 64 := h.2
  by_cases hi : i < 0
  · have hfits : (decide (0 < i.natAbs) && decide (i.natAbs ≤ Width.count 63)) = true := by
      simp only [Bool.and_eq_true, decide_eq_true_eq]
      omega
    have hvalue : -(i.natAbs : Int) = i := by omega
    simp only [tree, Nat.ofDigitChars_ten_toDigits, hi, decide_true, if_true, hfits, hvalue,
      Option.isNone_none, Bool.and_true]
  · have hfits : decide (i.natAbs ≤ limit) = true :=
      decide_eq_true (Nat.le_sub_one_of_lt (by omega))
    have hvalue : (i.natAbs : Int) = i := by omega
    simp only [tree, Nat.ofDigitChars_ten_toDigits, hi, decide_false, Bool.false_eq_true, if_false,
      if_true, hfits, hvalue, Option.isNone_none, Bool.and_true]

end Numeral

namespace Parser
open Text.Digit

theorem skip_of_not_space {c : Char} (h : isSpace c = false) (cs : List Char) :
    skip (c :: cs) = c :: cs := by
  rw [skip, List.dropWhile_cons, h]
  rfl

theorem key_written (k : String) (rest : List Char) :
    key (Printer.key (some k) ++ rest) = some (some k, rest) := by
  obtain ⟨es, hscan, htext⟩ := Quoted.scan_quote k.toList (':' :: rest)
  have hstart : Printer.key (some k) ++ rest =
      '"' :: (k.toList.flatMap Quoted.escape ++ '"' :: ':' :: rest) := by
    simp [Printer.key, Quoted.quote]
  rw [hstart, key, skip_of_not_space (by decide)]
  simp only [hscan, skip_of_not_space (show isSpace ':' = false by decide), htext, Option.map_some,
    String.ofList_toList]

theorem value_text (fuel : Nat) (s : String) (rest : List Char) :
    value (fuel + 1) (Printer.tree (.text s) ++ rest) = some (.text s, rest) := by
  obtain ⟨es, hscan, htext⟩ := Quoted.scan_quote s.toList rest
  have hstart : Printer.tree (.text s) ++ rest =
      '"' :: (s.toList.flatMap Quoted.escape ++ '"' :: rest) := by
    simp [Printer.tree, Quoted.quote]
  rw [hstart, value, skip_of_not_space (by decide)]
  simp only [hscan, Option.map_some, textLeaf, htext, String.ofList_toList]

/-- An integer starts with a minus sign or a digit. -/
theorem exists_start_integer (i : Int) :
    ∃ c cs, Printer.integer i = c :: cs ∧ ∀ d, d ≠ '-' → d.isDigit = false → c ≠ d := by
  by_cases hi : i < 0
  · refine ⟨'-', Nat.toDigits 10 i.natAbs, by simp [Printer.integer, hi], ?_⟩
    exact fun d hd _ => hd.symm
  · obtain ⟨c, cs, hcs⟩ :=
      List.exists_cons_of_ne_nil (Nat.toDigits_ne_nil (n := i.natAbs) (b := 10))
    refine ⟨c, cs, by simp [Printer.integer, hi, hcs], ?_⟩
    rintro d - hd rfl
    simp [isDigit_toDigits i.natAbs (c := c) (by simp [hcs])] at hd

theorem isSpace_eq_false {c : Char} (h : ∀ d, d ≠ '-' → d.isDigit = false → c ≠ d) :
    isSpace c = false := by
  have hspaces : c ≠ ' ' ∧ c ≠ '\n' ∧ c ≠ '\t' ∧ c ≠ '\r' :=
    ⟨h _ (by decide) (by decide), h _ (by decide) (by decide), h _ (by decide) (by decide),
      h _ (by decide) (by decide)⟩
  simpa [isSpace, and_assoc] using hspaces

theorem value_integer (fuel : Nat) {i : Int} (hi : Numeral.Holds i) {rest : List Char}
    (hrest : Ends rest) :
    value (fuel + 1) (Printer.tree (.integer i) ++ rest) = some (.integer i, rest) := by
  obtain ⟨c, cs, hcs, hstart⟩ := exists_start_integer i
  have hspace : isSpace c = false := isSpace_eq_false hstart
  have hscan := Numeral.scan_integer hrest i
  rw [hcs, List.cons_append] at hscan
  rw [Printer.tree, hcs, List.cons_append, value.eq_def]
  simp only [skip_of_not_space hspace]
  split
  case h_7 =>
    rw [hscan, Option.map_some]
    simp only [Numeral.tree_integer hi]
  all_goals next he => exact absurd (List.cons.inj he).1 (hstart _ (by decide) (by decide))

/-- A tree that JSON has a form for, which stands for it alone. -/
inductive IsExact : Tree → Prop
  | null : IsExact .null
  | boolean (b : Bool) : IsExact (.boolean b)
  | integer {i : Int} (h : Numeral.Holds i) : IsExact (.integer i)
  | text (s : String) : IsExact (.text s)
  | list {items : List Tree} (h : ∀ t ∈ items, IsExact t) : IsExact (.list items)
  | table {ms : List (Option String × Tree)} (keys : ∀ m ∈ ms, m.1.isSome = true)
      (h : ∀ m ∈ ms, IsExact m.2) : IsExact (.table ms)

/-- A written tree starts with a character that ends no list. -/
theorem IsExact.start {t : Tree} (h : IsExact t) :
    ∃ c cs, Printer.tree t = c :: cs ∧ isSpace c = false ∧ c ≠ ']' := by
  cases h with
  | null => exact ⟨'n', _, rfl, by decide, by decide⟩
  | boolean b => cases b <;> exact ⟨_, _, rfl, by decide, by decide⟩
  | @integer i h =>
    obtain ⟨c, cs, hcs, hstart⟩ := exists_start_integer i
    exact ⟨c, cs, hcs, isSpace_eq_false hstart, hstart ']' (by decide) (by decide)⟩
  | text s => exact ⟨'"', _, rfl, by decide, by decide⟩
  | @list items h => cases items <;> exact ⟨'[', _, rfl, by decide, by decide⟩
  | @table ms keys h => cases ms <;> exact ⟨'{', _, rfl, by decide, by decide⟩

/-- The tree is read from its written form, whatever ends that. Two units of fuel for each character
are enough. -/
def IsReadBack (t : Tree) : Prop :=
  ∀ fuel rest, 2 * (Printer.tree t).length ≤ fuel → Ends rest →
    value fuel (Printer.tree t ++ rest) = some (t, rest)

theorem elements_printed {t : Tree} {items : List Tree} (ht : IsReadBack t)
    (hitems : ∀ u ∈ items, IsReadBack u) (rest : List Char) {fuel : Nat}
    (hfuel : 2 * ((Printer.tree t).length + (Printer.items items).length) ≤ fuel) :
    elements fuel (Printer.tree t ++ (Printer.items items ++ rest)) = some (t :: items, rest) := by
  induction items generalizing t fuel with
  | nil =>
    have hlength : (Printer.items []).length = 1 := by simp [Printer.items]
    obtain ⟨fuel, rfl⟩ := Nat.exists_eq_add_of_le' (show 1 ≤ fuel by omega)
    have hvalue := ht fuel (']' :: rest) (by omega) (ends_cons (by decide) rest)
    have hend : Printer.items [] ++ rest = ']' :: rest := by simp [Printer.items]
    rw [hend, elements.eq_def]
    simp only [hvalue, skip_of_not_space (show isSpace ']' = false by decide)]
  | cons u items ih =>
    let next := Printer.tree u ++ (Printer.items items ++ rest)
    have hnext : Printer.items (u :: items) ++ rest = ',' :: next := by
      simp [Printer.items, next]
    have hlength : (Printer.items (u :: items)).length =
        (Printer.tree u).length + (Printer.items items).length + 1 := by
      simp [Printer.items]
    obtain ⟨fuel, rfl⟩ := Nat.exists_eq_add_of_le' (show 1 ≤ fuel by omega)
    obtain ⟨hu, hitems⟩ := List.forall_mem_cons.1 hitems
    have hvalue := ht fuel (',' :: next) (by omega) (ends_cons (by decide) next)
    have hrest : elements fuel next = some (u :: items, rest) := ih hu hitems (by omega)
    rw [hnext, elements.eq_def]
    simp only [hvalue, skip_of_not_space (show isSpace ',' = false by decide), hrest,
      Option.map_some]

theorem members_printed {k : String} {t : Tree} {ms : List (Option String × Tree)}
    (ht : IsReadBack t) (hkeys : ∀ m ∈ ms, m.1.isSome = true) (hms : ∀ m ∈ ms, IsReadBack m.2)
    (rest : List Char) {fuel : Nat}
    (hfuel : 2 * ((Printer.tree t).length + (Printer.members ms).length) ≤ fuel) :
    members fuel (Printer.key (some k) ++ (Printer.tree t ++ (Printer.members ms ++ rest))) =
      some ((some k, t) :: ms, rest) := by
  induction ms generalizing k t fuel with
  | nil =>
    have hlength : (Printer.members []).length = 1 := by simp [Printer.members]
    obtain ⟨fuel, rfl⟩ := Nat.exists_eq_add_of_le' (show 1 ≤ fuel by omega)
    have hvalue := ht fuel ('}' :: rest) (by omega) (ends_cons (by decide) rest)
    have hend : Printer.members [] ++ rest = '}' :: rest := by simp [Printer.members]
    rw [hend, members.eq_def]
    simp only [key_written, hvalue, skip_of_not_space (show isSpace '}' = false by decide)]
  | cons m ms ih =>
    obtain ⟨hkey, hlater⟩ := List.forall_mem_cons.1 hkeys
    obtain ⟨hm, hrestRead⟩ := List.forall_mem_cons.1 hms
    obtain ⟨_ | name, u⟩ := m
    · cases hkey
    have hu : IsReadBack u := hm
    let next := Printer.key (some name) ++ (Printer.tree u ++ (Printer.members ms ++ rest))
    have hnext : Printer.members ((some name, u) :: ms) ++ rest = ',' :: next := by
      simp [Printer.members, next]
    have hlength : (Printer.members ((some name, u) :: ms)).length =
        (Printer.key (some name)).length + (Printer.tree u).length +
          (Printer.members ms).length + 1 := by
      simp [Printer.members]
      omega
    obtain ⟨fuel, rfl⟩ := Nat.exists_eq_add_of_le' (show 1 ≤ fuel by omega)
    have hvalue := ht fuel (',' :: next) (by omega) (ends_cons (by decide) next)
    have hrest : members fuel next = some ((some name, u) :: ms, rest) :=
      ih hu hlater hrestRead (by omega)
    rw [hnext, members.eq_def]
    simp only [key_written, hvalue, skip_of_not_space (show isSpace ',' = false by decide), hrest,
      Option.map_some]

theorem value_table {fuel : Nat} {cs rest : List Char} {ms : List (Option String × Tree)}
    (h : members fuel ('"' :: cs) = some (ms, rest)) :
    value (fuel + 1) ('{' :: '"' :: cs) = some (.table ms, rest) := by
  rw [value.eq_def]
  simp only [skip_of_not_space (show isSpace '{' = false by decide),
    skip_of_not_space (show isSpace '"' = false by decide)]
  change (members fuel ('"' :: cs)).map _ = _
  rw [h, Option.map_some]

theorem value_list (fuel : Nat) {cs rest : List Char} {items : List Tree} {c : Char}
    (hspace : isSpace c = false) (hend : c ≠ ']')
    (h : elements fuel (c :: cs) = some (items, rest)) :
    value (fuel + 1) ('[' :: c :: cs) = some (.list items, rest) := by
  rw [value.eq_def]
  simp only [skip_of_not_space (show isSpace '[' = false by decide), skip_of_not_space hspace]
  split
  · next he => exact absurd (List.cons.inj he).1 hend
  · rw [h, Option.map_some]

theorem IsExact.exists_fuel {t : Tree} (h : IsExact t) {fuel : Nat}
    (hfuel : 2 * (Printer.tree t).length ≤ fuel) : ∃ k, fuel = k + 1 := by
  obtain ⟨c, cs, hcs, -⟩ := h.start
  rw [hcs, List.length_cons] at hfuel
  exact Nat.exists_eq_add_of_le' (by omega)

theorem isReadBack_list {items : List Tree} (hexact : ∀ t ∈ items, IsExact t)
    (h : ∀ t ∈ items, IsReadBack t) : IsReadBack (.list items) := by
  intro fuel rest hfuel _
  obtain ⟨fuel, rfl⟩ := (IsExact.list hexact).exists_fuel hfuel
  cases items with
  | nil => rfl
  | cons t items =>
    obtain ⟨ht, hitems⟩ := List.forall_mem_cons.1 h
    obtain ⟨c, cs, hcs, hspace, hend⟩ := (hexact t List.mem_cons_self).start
    have hwritten : Printer.tree (.list (t :: items)) ++ rest =
        '[' :: (Printer.tree t ++ (Printer.items items ++ rest)) := by
      simp [Printer.tree]
    have hlength : (Printer.tree (.list (t :: items))).length =
        (Printer.tree t).length + (Printer.items items).length + 1 := by
      simp [Printer.tree]
    have hread : elements fuel (Printer.tree t ++ (Printer.items items ++ rest)) =
        some (t :: items, rest) := elements_printed ht hitems rest (by omega)
    rw [hwritten]
    rw [hcs, List.cons_append] at hread ⊢
    exact value_list fuel hspace hend hread

theorem isReadBack_table {ms : List (Option String × Tree)} (hkeys : ∀ m ∈ ms, m.1.isSome = true)
    (hexact : ∀ m ∈ ms, IsExact m.2) (h : ∀ m ∈ ms, IsReadBack m.2) :
    IsReadBack (.table ms) := by
  intro fuel rest hfuel _
  obtain ⟨fuel, rfl⟩ := (IsExact.table hkeys hexact).exists_fuel hfuel
  cases ms with
  | nil => rfl
  | cons m ms =>
    obtain ⟨hkey, hlater⟩ := List.forall_mem_cons.1 hkeys
    obtain ⟨hm, hrestRead⟩ := List.forall_mem_cons.1 h
    obtain ⟨_ | k, t⟩ := m
    · cases hkey
    have ht : IsReadBack t := hm
    have hwritten : Printer.tree (.table ((some k, t) :: ms)) ++ rest =
        '{' :: (Printer.key (some k) ++ (Printer.tree t ++ (Printer.members ms ++ rest))) := by
      simp [Printer.tree]
    have hlength : (Printer.tree (.table ((some k, t) :: ms))).length =
        (Printer.key (some k)).length + (Printer.tree t).length +
          (Printer.members ms).length + 1 := by
      simp [Printer.tree]
      omega
    rw [hwritten]
    exact value_table (members_printed ht hlater hrestRead rest (by omega))

theorem IsExact.isReadBack {t : Tree} (h : IsExact t) : IsReadBack t := by
  induction h with
  | null =>
    intro fuel rest hfuel _
    obtain ⟨fuel, rfl⟩ := IsExact.null.exists_fuel hfuel
    rfl
  | boolean b =>
    intro fuel rest hfuel _
    obtain ⟨fuel, rfl⟩ := (IsExact.boolean b).exists_fuel hfuel
    cases b <;> rfl
  | integer h =>
    intro fuel rest hfuel hrest
    obtain ⟨fuel, rfl⟩ := (IsExact.integer h).exists_fuel hfuel
    exact value_integer fuel h hrest
  | text s =>
    intro fuel rest hfuel _
    obtain ⟨fuel, rfl⟩ := (IsExact.text s).exists_fuel hfuel
    exact value_text fuel s rest
  | list h ih => exact isReadBack_list h ih
  | table keys h ih => exact isReadBack_table keys h ih

/-- An exact tree is read back from its written form. -/
theorem parse_print {t : Tree} (h : IsExact t) : parse (Printer.print t) = some t := by
  have hread := h.isReadBack (2 * (Printer.tree t).length + 2) [] (by omega) ends_nil
  rw [List.append_nil] at hread
  rw [parse, Printer.print, String.toList_ofList, hread]
  rfl

/-- The members of a table of texts. -/
def textMembers (fields : List (String × String)) : List (Option String × Tree) :=
  fields.map fun f => (some f.1, .text f.2)

theorem isExact_of_mem_textMembers {fields : List (String × String)} :
    ∀ m ∈ textMembers fields, m.1.isSome = true ∧ IsExact m.2 := by
  intro m hm
  obtain ⟨f, -, rfl⟩ := List.mem_map.1 hm
  exact ⟨rfl, .text f.2⟩

theorem IsExact.of_members {ms : List (Option String × Tree)}
    (h : ∀ m ∈ ms, m.1.isSome = true ∧ IsExact m.2) : IsExact (.table ms) :=
  .table (fun m hm => (h m hm).1) fun m hm => (h m hm).2

end Parser

end ReleaseBulletin.Json

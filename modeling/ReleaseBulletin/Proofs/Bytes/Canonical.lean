import ReleaseBulletin.Proofs.Bytes.Base64

/-!
The padded base64 of a byte string by its definition, groups of three bytes as the letters of a
number of 24 bits. Each byte string has one such text, and the forms that readers often put up with
are the text of none: padding left off or added, bits that belong to no byte, other letters.
-/
namespace ReleaseBulletin.Bytes.Base64

/-- The standard alphabet, in the order of the values of its letters. -/
def alphabet : List Char :=
  "ABCDEFGHIJKLMNOPQRSTUVWXYZabcdefghijklmnopqrstuvwxyz0123456789+/".toList

/-- The letter of a six-bit value. -/
def letter (v : Nat) : Char := alphabet.getD v '='

/-- The letters of a number of 24 bits. -/
def letters (n : Nat) : List Char :=
  [letter (n / 262144), letter (n / 4096 % 64), letter (n / 64 % 64), letter (n % 64)]

/-- The base64 of a byte string. Bytes that are missing in the last group count as zero, and padding
stands for the letters that have no bit of the others. -/
inductive IsText : Bytes → List Char → Prop
  | nil : IsText [] []
  | one (a : UInt8) : IsText [a] ((letters (a.toNat * 65536)).take 2 ++ ['=', '='])
  | two (a b : UInt8) :
      IsText [a, b] ((letters (a.toNat * 65536 + b.toNat * 256)).take 3 ++ ['='])
  | three (a b c : UInt8) {rest : Bytes} {cs : List Char} (h : IsText rest cs) :
      IsText (a :: b :: c :: rest) (letters (a.toNat * 65536 + b.toNat * 256 + c.toNat) ++ cs)

/-- Forms that are no byte string's base64 though they look like it. -/
inductive IsLoose : List Char → Prop
  /-- Padding is left off. -/
  | missing {bs : Bytes} {cs : List Char} {k : Nat} (hk : 0 < k)
      (h : IsText bs (cs ++ List.replicate k '=')) : IsLoose cs
  /-- Padding is added. -/
  | surplus {bs : Bytes} {cs : List Char} {k : Nat} (hk : 0 < k) (h : IsText bs cs) :
      IsLoose (cs ++ List.replicate k '=')
  /-- The last letter has bits that belong to no byte: two of them for each padding sign. -/
  | unused (front : List Char) {v k : Nat} (hv : v < 64) (h : v % Nat.pow 4 k ≠ 0) :
      IsLoose (front ++ letter v :: List.replicate k '=')
  /-- A letter belongs to another alphabet. -/
  | foreign {cs : List Char} {c : Char} (hc : c ∈ cs) (h : c ∉ alphabet) (hpad : c ≠ '=') :
      IsLoose cs

/-- The symbols of a byte string as characters. -/
def text (bs : Bytes) : List Char := (encode bs).map fun b => Char.ofNat b.toNat

theorem letter_eq_symbol : ∀ v < 64, letter v = Char.ofNat (symbol v).toNat := by
  decide +kernel

theorem idxOf_letter : ∀ v < 64, alphabet.idxOf (letter v) = v := by decide +kernel

theorem letter_mem_alphabet : ∀ v < 64, letter v ∈ alphabet := by decide +kernel

theorem not_mem_alphabet : '=' ∉ alphabet := by decide

theorem letter_ne_pad {v : Nat} (hv : v < 64) : letter v ≠ '=' := fun h =>
  not_mem_alphabet (h ▸ letter_mem_alphabet v hv)

theorem letter_injective {v v' : Nat} (hv : v < 64) (hv' : v' < 64) (h : letter v = letter v') :
    v = v' := by
  rw [← idxOf_letter v hv, h, idxOf_letter v' hv']

theorem mem_letters {n : Nat} (hn : n < 16777216) {c : Char} (hc : c ∈ letters n) :
    ∃ v < 64, c = letter v := by
  simp only [letters, List.mem_cons, List.not_mem_nil, or_false] at hc
  rcases hc with rfl | rfl | rfl | rfl
  · exact ⟨_, by omega, rfl⟩
  · exact ⟨_, by omega, rfl⟩
  · exact ⟨_, by omega, rfl⟩
  · exact ⟨_, by omega, rfl⟩

theorem text_one (a : UInt8) : text [a] = (letters (a.toNat * 65536)).take 2 ++ ['=', '='] := by
  have ha := a.toNat_lt
  have h₀ : a.toNat * 65536 / 262144 = a.toNat / 4 := by omega
  have h₁ : a.toNat * 65536 / 4096 % 64 = a.toNat % 4 * 16 := by omega
  rw [letters, h₀, h₁, letter_eq_symbol _ (by omega), letter_eq_symbol _ (by omega)]
  rfl

theorem text_two (a b : UInt8) :
    text [a, b] = (letters (a.toNat * 65536 + b.toNat * 256)).take 3 ++ ['='] := by
  have ha := a.toNat_lt
  have hb := b.toNat_lt
  have h₀ : (a.toNat * 65536 + b.toNat * 256) / 262144 = a.toNat / 4 := by omega
  have h₁ : (a.toNat * 65536 + b.toNat * 256) / 4096 % 64 = a.toNat % 4 * 16 + b.toNat / 16 := by
    omega
  have h₂ : (a.toNat * 65536 + b.toNat * 256) / 64 % 64 = b.toNat % 16 * 4 := by omega
  rw [letters, h₀, h₁, h₂, letter_eq_symbol _ (by omega), letter_eq_symbol _ (by omega),
    letter_eq_symbol _ (by omega)]
  rfl

theorem text_three (a b c : UInt8) (rest : Bytes) :
    text (a :: b :: c :: rest) =
      letters (a.toNat * 65536 + b.toNat * 256 + c.toNat) ++ text rest := by
  have ha := a.toNat_lt
  have hb := b.toNat_lt
  have hc := c.toNat_lt
  have h₀ : (a.toNat * 65536 + b.toNat * 256 + c.toNat) / 262144 = a.toNat / 4 := by omega
  have h₁ : (a.toNat * 65536 + b.toNat * 256 + c.toNat) / 4096 % 64 =
      a.toNat % 4 * 16 + b.toNat / 16 := by omega
  have h₂ : (a.toNat * 65536 + b.toNat * 256 + c.toNat) / 64 % 64 =
      b.toNat % 16 * 4 + c.toNat / 64 := by omega
  have h₃ : (a.toNat * 65536 + b.toNat * 256 + c.toNat) % 64 = c.toNat % 64 := by omega
  rw [letters, h₀, h₁, h₂, h₃, letter_eq_symbol _ (by omega), letter_eq_symbol _ (by omega),
    letter_eq_symbol _ (by omega), letter_eq_symbol _ (by omega)]
  rfl

theorem isText_text (bs : Bytes) : IsText bs (text bs) := by
  induction bs using encode.induct with
  | case1 => exact .nil
  | case2 a =>
    rw [text_one]
    exact .one a
  | case3 a b =>
    rw [text_two]
    exact .two a b
  | case4 a b c rest ih =>
    rw [text_three]
    exact .three a b c ih

theorem IsText.unique {bs : Bytes} {cs cs' : List Char} (h : IsText bs cs) (h' : IsText bs cs') :
    cs = cs' := by
  induction h generalizing cs' with
  | nil =>
    cases h'
    rfl
  | one a =>
    cases h'
    rfl
  | two a b =>
    cases h'
    rfl
  | three a b c h ih =>
    cases h' with
    | three _ _ _ h' => rw [ih h']

theorem isText_iff {bs : Bytes} {cs : List Char} : IsText bs cs ↔ cs = text bs :=
  ⟨fun h => h.unique (isText_text bs), fun h => h ▸ isText_text bs⟩

theorem length_letters (n : Nat) : (letters n).length = 4 := rfl

theorem letters_bound (a b c : UInt8) : a.toNat * 65536 + b.toNat * 256 + c.toNat < 16777216 := by
  have ha := a.toNat_lt
  have hb := b.toNat_lt
  have hc := c.toNat_lt
  omega

theorem count_letters {n : Nat} (hn : n < 16777216) (k : Nat) :
    ((letters n).take k).count '=' = 0 := by
  refine List.count_eq_zero.2 fun h => ?_
  obtain ⟨v, hv, hpad⟩ := mem_letters hn (List.mem_of_mem_take h)
  exact letter_ne_pad hv hpad.symm

theorem IsText.length {bs : Bytes} {cs : List Char} (h : IsText bs cs) : cs.length % 4 = 0 := by
  induction h with
  | nil => rfl
  | one a => simp [length_letters]
  | two a b => simp [length_letters]
  | three a b c h ih =>
    rw [List.length_append, length_letters]
    omega

/-- Two signs of padding are the most that there are. -/
theorem IsText.count_pad {bs : Bytes} {cs : List Char} (h : IsText bs cs) : cs.count '=' ≤ 2 := by
  induction h with
  | nil => simp
  | one a =>
    have hn := letters_bound a 0 0
    rw [List.count_append, count_letters (by simpa using hn)]
    exact Nat.le_refl 2
  | two a b =>
    have hn := letters_bound a b 0
    rw [List.count_append, count_letters (by simpa using hn)]
    exact Nat.le_succ 1
  | three a b c h ih =>
    have hzero := count_letters (letters_bound a b c) 4
    rw [List.take_of_length_le (Nat.le_of_eq (length_letters _))] at hzero
    rw [List.count_append, hzero, Nat.zero_add]
    exact ih

theorem IsText.mem {bs : Bytes} {cs : List Char} (h : IsText bs cs) {c : Char} (hc : c ∈ cs) :
    c ∈ alphabet ∨ c = '=' := by
  have hletters : ∀ {n : Nat}, n < 16777216 → c ∈ letters n → c ∈ alphabet ∨ c = '=' := by
    intro n hn hc
    obtain ⟨v, hv, rfl⟩ := mem_letters hn hc
    exact .inl (letter_mem_alphabet v hv)
  induction h with
  | nil => cases hc
  | one a =>
    rcases List.mem_append.1 hc with hc | hc
    · exact hletters (by simpa using letters_bound a 0 0) (List.mem_of_mem_take hc)
    · exact .inr (by simpa using hc)
  | two a b =>
    rcases List.mem_append.1 hc with hc | hc
    · exact hletters (by simpa using letters_bound a b 0) (List.mem_of_mem_take hc)
    · exact .inr (by simpa using hc)
  | three a b c h ih =>
    rcases List.mem_append.1 hc with hc | hc
    · exact hletters (letters_bound a b c) hc
    · exact ih hc

/-- With other padding at its end, a text is no byte string's. -/
theorem IsText.not_padded {bs bs' : Bytes} {cs : List Char} {k : Nat} (hk : 0 < k)
    (h : IsText bs cs) : ¬ IsText bs' (cs ++ List.replicate k '=') := by
  intro h'
  have hlength := h.length
  have hlength' := h'.length
  have hcount := h'.count_pad
  rw [List.length_append, List.length_replicate] at hlength'
  rw [List.count_append, List.count_replicate_self] at hcount
  omega

/-- Where padding starts is told by the text. -/
theorem padding_unique {front front' : List Char} {c c' : Char} {k k' : Nat} (hc : c ≠ '=')
    (hc' : c' ≠ '=')
    (h : front ++ c :: List.replicate k '=' = front' ++ c' :: List.replicate k' '=') :
    k = k' ∧ c = c' := by
  have hrev : List.replicate k '=' ++ c :: front.reverse =
      List.replicate k' '=' ++ c' :: front'.reverse := by
    simpa using congrArg List.reverse h
  clear h
  induction k generalizing k' with
  | zero =>
    cases k' with
    | zero => exact ⟨rfl, (List.cons.inj hrev).1⟩
    | succ k' => exact absurd (List.cons.inj hrev).1 hc
  | succ k ih =>
    cases k' with
    | zero => exact absurd (List.cons.inj hrev).1.symm hc'
    | succ k' =>
      obtain ⟨hk, hcc'⟩ := ih (List.cons.inj hrev).2
      exact ⟨by rw [hk], hcc'⟩

section LastLetter

variable (n : Nat)

theorem letters_padded_twice : (letters n).take 2 ++ ['=', '='] =
    (letters n).take 1 ++ letter (n / 4096 % 64) :: List.replicate 2 '=' :=
  rfl

theorem letters_padded_once : (letters n).take 3 ++ ['='] =
    (letters n).take 2 ++ letter (n / 64 % 64) :: List.replicate 1 '=' :=
  rfl

theorem letters_unpadded :
    letters n ++ [] = (letters n).take 3 ++ letter (n % 64) :: List.replicate 0 '=' :=
  rfl

end LastLetter

/-- A text ends with a letter and the padding that its unused bits, which are zero, ask for. -/
theorem IsText.exists_last {bs : Bytes} {cs : List Char} (h : IsText bs cs) :
    cs = [] ∨ ∃ front v k, v < 64 ∧ v % Nat.pow 4 k = 0 ∧
      cs = front ++ letter v :: List.replicate k '=' := by
  have hlt : ∀ n, n % 64 < 64 := fun n => Nat.mod_lt n (by decide)
  induction h with
  | nil => exact .inl rfl
  | one a =>
    have hunused : a.toNat * 65536 / 4096 % 64 % 16 = 0 := by omega
    exact .inr ⟨_, _, 2, hlt _, hunused, letters_padded_twice _⟩
  | two a b =>
    have hunused : (a.toNat * 65536 + b.toNat * 256) / 64 % 64 % 4 = 0 := by omega
    exact .inr ⟨_, _, 1, hlt _, hunused, letters_padded_once _⟩
  | three a b c h ih =>
    rcases ih with rfl | ⟨front, v, k, hv, hunused, rfl⟩
    · exact .inr ⟨_, _, 0, hlt _, Nat.mod_one _, letters_unpadded _⟩
    · exact .inr ⟨_ ++ front, v, k, hv, hunused, (List.append_assoc ..).symm⟩

theorem IsText.unused {bs : Bytes} {front : List Char} {v k : Nat} (hv : v < 64)
    (h : IsText bs (front ++ letter v :: List.replicate k '=')) : v % Nat.pow 4 k = 0 := by
  rcases h.exists_last with hnil | ⟨front', v', k', hv', hunused, hcs⟩
  · simp at hnil
  · obtain ⟨rfl, hletter⟩ := padding_unique (letter_ne_pad hv) (letter_ne_pad hv') hcs
    rw [letter_injective hv hv' hletter]
    exact hunused

/-- The forms that look like base64 and are not are the base64 of no byte string. -/
theorem IsLoose.not_isText {cs : List Char} (h : IsLoose cs) (bs : Bytes) : ¬ IsText bs cs := by
  intro htext
  cases h with
  | missing hk h => exact htext.not_padded hk h
  | surplus hk h => exact h.not_padded hk htext
  | unused front hv h => exact h (htext.unused hv)
  | foreign hc h hpad =>
    rcases htext.mem hc with hmem | heq
    · exact h hmem
    · exact hpad heq

end ReleaseBulletin.Bytes.Base64

import ReleaseBulletin.Proofs.Bytes.Utf8
import ReleaseBulletin.Url.Percent

/-!
Encoded parts of URLs stand for what was encoded, and hold none of the characters that separate
parts. Both encodings go character by character, so what holds of one character holds of a text. No
encoding is needed for plain characters.
-/
namespace ReleaseBulletin.Url.Percent
open Bytes Text.Radix

/-- The characters that encoded bytes are written with. -/
def escapeAlphabet : List Char := '%' :: "0123456789ABCDEF".toList

theorem upperDigit_mem : ∀ n < 16, upperDigit n ∈ escapeAlphabet := by decide

theorem mem_encodeByte {b : UInt8} {c : Char} (h : c ∈ encodeByte b) : c ∈ escapeAlphabet := by
  have hb := b.toNat_lt
  simp only [encodeByte, List.mem_cons, List.not_mem_nil, or_false] at h
  rcases h with rfl | rfl | rfl
  · exact List.mem_cons_self
  · exact upperDigit_mem _ (by omega)
  · exact upperDigit_mem _ (by omega)

theorem mem_encodeChar {c d : Char} (h : d ∈ encodeChar c) : d ∈ escapeAlphabet := by
  obtain ⟨b, -, hb⟩ := List.mem_flatMap.1 h
  exact mem_encodeByte hb

theorem not_mem_encode {special : List Char} {sep : Char}
    (hreserved : isReserved special sep = true) (halphabet : sep ∉ escapeAlphabet)
    (cs : List Char) : sep ∉ encode special cs := by
  intro h
  obtain ⟨c, -, hc⟩ := List.mem_flatMap.1 h
  split at hc
  · exact halphabet (mem_encodeChar hc)
  · next hkept =>
    obtain rfl : sep = c := List.mem_singleton.1 hc
    exact hkept hreserved

theorem not_mem_formEncode {sep : Char} (hescaped : isFormSafe sep = false) (hplus : sep ≠ '+')
    (halphabet : sep ∉ escapeAlphabet) (cs : List Char) : sep ∉ formEncode cs := by
  intro h
  obtain ⟨c, -, hc⟩ := List.mem_flatMap.1 h
  split at hc
  · next hsafe =>
    obtain rfl : sep = c := List.mem_singleton.1 hc
    rw [hescaped] at hsafe
    cases hsafe
  · split at hc
    · exact hplus (List.mem_singleton.1 hc)
    · exact halphabet (mem_encodeChar hc)

theorem encode_eq_self {special cs : List Char} (h : ∀ c ∈ cs, isReserved special c = false) :
    encode special cs = cs := by
  induction cs with
  | nil => rfl
  | cons c cs ih =>
    have htail : encode special cs = cs := ih fun d hd => h d (List.mem_cons_of_mem c hd)
    rw [encode] at htail ⊢
    rw [List.flatMap_cons, h c List.mem_cons_self, htail]
    rfl

theorem decode_encodeByte (b : UInt8) (rest : List Char) :
    decode (encodeByte b ++ rest) = b :: decode rest := by
  have hb := b.toNat_lt
  have hvalue : b.toNat / 16 * 16 + b.toNat % 16 = b.toNat := by omega
  rw [encodeByte, List.cons_append, List.cons_append, List.cons_append, List.nil_append, decode,
    hexValue?_upperDigit _ (by omega), hexValue?_upperDigit _ (by omega)]
  simp only [hvalue, UInt8.ofNat_toNat]

theorem decode_encodeBytes (bs : Bytes) (rest : List Char) :
    decode (bs.flatMap encodeByte ++ rest) = bs ++ decode rest := by
  induction bs with
  | nil => rfl
  | cons b bs ih =>
    rw [List.flatMap_cons, List.append_assoc, decode_encodeByte, ih, List.cons_append]

theorem decode_cons {c : Char} (h : c ≠ '%') (rest : List Char) :
    decode (c :: rest) = Utf8.encode [c] ++ decode rest := by
  rw [decode]
  rintro a b tail rfl
  exact absurd rfl h

/-- A text is decoded if each of its characters was written so that it is decoded, whatever
follows it. -/
theorem decode_flatMap {written : Char → List Char}
    (h : ∀ c rest, decode (written c ++ rest) = Utf8.encode [c] ++ decode rest) (cs : List Char) :
    decode (cs.flatMap written) = Utf8.encode cs := by
  induction cs with
  | nil => rfl
  | cons c cs ih =>
    rw [List.flatMap_cons, h, ih, ← Utf8.encode_append]
    rfl

/-- What was encoded with the percent sign among the reserved characters is decoded. -/
theorem decode_encode {special : List Char} (hpercent : isReserved special '%' = true)
    (cs : List Char) : decode (encode special cs) = Utf8.encode cs := by
  refine decode_flatMap (fun c rest => ?_) cs
  split
  · exact decode_encodeBytes _ rest
  · next hkept =>
    have hc : c ≠ '%' := fun e => hkept (e ▸ hpercent)
    exact decode_cons hc rest

/-- Reading a plus sign as a space leaves encoded bytes alone. -/
theorem map_plus_encodeChar (c : Char) :
    (encodeChar c).map (fun d => if d = '+' then ' ' else d) = encodeChar c := by
  have hkept : ∀ d ∈ encodeChar c, (if d = '+' then ' ' else d) = d := by
    intro d hd
    have hplus : '+' ∉ escapeAlphabet := by decide
    have hne : d ≠ '+' := fun e => hplus (e ▸ mem_encodeChar hd)
    exact if_neg hne
  rw [List.map_congr_left hkept, List.map_id']

theorem formDecode_formEncode (cs : List Char) : formDecode (formEncode cs) = Utf8.encode cs := by
  rw [formDecode, formEncode, List.map_flatMap]
  refine decode_flatMap (fun c rest => ?_) cs
  split
  · next hsafe =>
    have hplus : c ≠ '+' := by
      rintro rfl
      cases hsafe
    have hpercent : c ≠ '%' := by
      rintro rfl
      cases hsafe
    rw [List.map_singleton, if_neg hplus]
    exact decode_cons hpercent rest
  · split
    · next hspace =>
      subst hspace
      exact decode_cons (by decide) rest
    · rw [map_plus_encodeChar]
      exact decode_encodeBytes _ rest

/-- A letter, a digit, a hyphen or an underscore. -/
def isPlainChar (c : Char) : Bool :=
  'a' ≤ c && c ≤ 'z' || 'A' ≤ c && c ≤ 'Z' || '0' ≤ c && c ≤ '9' || c == '-' || c == '_'

theorem toNat_lt_of_isPlainChar {c : Char} (h : isPlainChar c = true) : c.toNat < 128 := by
  have hbounds : ∀ d : Char, c ≤ d → c.toNat ≤ d.toNat := fun d hd => hd
  simp only [isPlainChar, Bool.or_eq_true, Bool.and_eq_true, decide_eq_true_eq, beq_iff_eq] at h
  rcases h with (((⟨-, h⟩ | ⟨-, h⟩) | ⟨-, h⟩) | rfl) | rfl
  · exact Nat.lt_of_le_of_lt (hbounds 'z' h) (by decide)
  · exact Nat.lt_of_le_of_lt (hbounds 'Z' h) (by decide)
  · exact Nat.lt_of_le_of_lt (hbounds '9' h) (by decide)
  · decide
  · decide

/-- What is true of the plain characters among those of ASCII is true of all plain characters. -/
theorem forall_isPlainChar {p : Char → Bool}
    (h : ∀ n < 128, isPlainChar (Char.ofNat n) = true → p (Char.ofNat n) = true) {c : Char}
    (hc : isPlainChar c = true) : p c = true := by
  have hself := Char.ofNat_toNat c
  rw [← hself] at hc ⊢
  refine h c.toNat (toNat_lt_of_isPlainChar ?_) hc
  rwa [hself] at hc

theorem isReserved_of_isPlainChar {special : List Char} (hs : special.any isPlainChar = false)
    {c : Char} (h : isPlainChar c = true) : isReserved special c = false := by
  have hkept : special.contains c = false := by
    cases hc : special.contains c with
    | false => rfl
    | true =>
      have hany : special.any isPlainChar = true :=
        List.any_eq_true.2 ⟨c, List.contains_iff_mem.1 hc, h⟩
      rw [hs] at hany
      cases hany
  have hvisible := forall_isPlainChar (p := fun c => !(0x80 ≤ c.toNat || isControl c)) (by decide) h
  rw [isReserved, hkept, Bool.or_false]
  simpa using hvisible

end ReleaseBulletin.Url.Percent

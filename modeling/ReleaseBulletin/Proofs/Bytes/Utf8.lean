import ReleaseBulletin.Bytes.Utf8

/-!
The bytes of a text are read back as the text, by strict and by lenient decoding. Strict decoding
accepts no other bytes.
-/
namespace ReleaseBulletin.Bytes.Utf8

theorem val_valid (c : Char) :
    c.val.toNat < 0xD800 ∨ 0xDFFF < c.val.toNat ∧ c.val.toNat < 0x110000 :=
  c.valid

theorem ofNat_val (c : Char) : Char.ofNat c.val.toNat = c := Char.ofNat_toNat c

theorem toNat_ofNat_of_lt {n : Nat} (h : n < 256) : (UInt8.ofNat n).toNat = n := by
  rw [UInt8.toNat_ofNat', Nat.mod_eq_of_lt h]

theorem isTail_ofNat {n : Nat} (h : n < 64) : isTail (UInt8.ofNat (n + 128)) = true := by
  rw [isTail, toNat_ofNat_of_lt (by omega)]
  simp only [Bool.and_eq_true, decide_eq_true_eq]
  omega

theorem tailBits_ofNat {n : Nat} (h : n < 64) : tailBits (UInt8.ofNat (n + 128)) = n := by
  rw [tailBits, toNat_ofNat_of_lt (by omega)]
  omega

theorem lead?_double {n : Nat} (low : 2 ≤ n) (high : n < 32) :
    lead? (n + 192) = some .double := by
  unfold lead?
  rw [if_neg (by omega), if_neg (by omega), if_pos (by omega)]

/-- The first byte of a character of three bytes admits the second one. -/
theorem lead?_triple {v : Nat} (valid : v < 0xD800 ∨ 0xDFFF < v) (low : 0x800 ≤ v)
    (high : v < 0x10000) :
    ∃ l h, lead? (v / 4096 + 224) = some (.triple l h) ∧ l ≤ v / 64 % 64 + 128 ∧
      v / 64 % 64 + 128 ≤ h := by
  unfold lead?
  rw [if_neg (by omega), if_neg (by omega), if_neg (by omega)]
  by_cases hfirst : v / 4096 = 0
  · rw [if_pos (by omega)]
    exact ⟨_, _, rfl, by omega, by omega⟩
  · rw [if_neg (by omega)]
    by_cases hhalves : v / 4096 = 13
    · rw [if_pos (by omega)]
      exact ⟨_, _, rfl, by omega, by omega⟩
    · rw [if_neg (by omega), if_pos (by omega)]
      exact ⟨_, _, rfl, by omega, by omega⟩

/-- The first byte of a character of four bytes admits the second one. -/
theorem lead?_quadruple {v : Nat} (low : 0x10000 ≤ v) (high : v < 0x110000) :
    ∃ l h, lead? (v / 262144 + 240) = some (.quadruple l h) ∧ l ≤ v / 4096 % 64 + 128 ∧
      v / 4096 % 64 + 128 ≤ h := by
  unfold lead?
  rw [if_neg (by omega), if_neg (by omega), if_neg (by omega), if_neg (by omega),
    if_neg (by omega), if_neg (by omega)]
  by_cases hfirst : v / 262144 = 0
  · rw [if_pos (by omega)]
    exact ⟨_, _, rfl, by omega, by omega⟩
  · rw [if_neg (by omega)]
    by_cases hlast : v / 262144 = 4
    · rw [if_neg (by omega), if_pos (by omega)]
      exact ⟨_, _, rfl, by omega, by omega⟩
    · rw [if_pos (by omega)]
      exact ⟨_, _, rfl, by omega, by omega⟩

section

variable {a b c d : UInt8} (rest : Bytes)

theorem scan_single (lead : lead? a.toNat = some .single) :
    scan (a :: rest) = .char (Char.ofNat a.toNat) :: scan rest := by
  rw [scan.eq_def]
  simp only [lead]

theorem scan_double (lead : lead? a.toNat = some .double) (second : isTail b = true) :
    scan (a :: b :: rest) = .char (joined [a.toNat % 32, tailBits b]) :: scan rest := by
  rw [scan.eq_def]
  simp only [lead, second, if_true]

theorem scan_triple {low high : Nat} (lead : lead? a.toNat = some (.triple low high))
    (second : within low high b = true) (third : isTail c = true) :
    scan (a :: b :: c :: rest) =
      .char (joined [a.toNat % 16, tailBits b, tailBits c]) :: scan rest := by
  rw [scan.eq_def]
  simp only [lead, second, third, if_true]

theorem scan_quadruple {low high : Nat} (lead : lead? a.toNat = some (.quadruple low high))
    (second : within low high b = true) (third : isTail c = true) (fourth : isTail d = true) :
    scan (a :: b :: c :: d :: rest) =
      .char (joined [a.toNat % 8, tailBits b, tailBits c, tailBits d]) :: scan rest := by
  rw [scan.eq_def]
  simp only [lead, second, third, fourth, if_true]

end

theorem within_ofNat {low high n : Nat} (hn : n < 256) (hlow : low ≤ n) (hhigh : n ≤ high) :
    within low high (UInt8.ofNat n) = true := by
  rw [within, toNat_ofNat_of_lt hn]
  simp [hlow, hhigh]

/-- The bytes of a character are read as that character, whatever comes after them. -/
theorem scan_encodeChar (c : Char) (rest : Bytes) :
    scan (String.utf8EncodeChar c ++ rest) = .char c :: scan rest := by
  have hvalid := val_valid c
  have hc := ofNat_val c
  unfold String.utf8EncodeChar
  generalize c.val.toNat = v at hvalid hc
  subst hc
  have htail : ∀ n, isTail (UInt8.ofNat (n % 64 + 128)) = true :=
    fun n => isTail_ofNat (Nat.mod_lt n (by decide))
  have hbits : ∀ n, tailBits (UInt8.ofNat (n % 64 + 128)) = n % 64 :=
    fun n => tailBits_ofNat (Nat.mod_lt n (by decide))
  dsimp only
  split
  · have ha : (UInt8.ofNat v).toNat = v := toNat_ofNat_of_lt (by omega)
    have hlead : lead? v = some .single := if_pos (by omega)
    rw [List.singleton_append, scan_single rest (by rw [ha, hlead]), ha]
  · split
    · have ha : (UInt8.ofNat (v / 64 % 32 + 192)).toNat = v / 64 % 32 + 192 :=
        toNat_ofNat_of_lt (by omega)
      have hlead : lead? (v / 64 % 32 + 192) = some .double :=
        lead?_double (by omega) (by omega)
      have hjoined : joined [(v / 64 % 32 + 192) % 32, v % 64] = Char.ofNat v :=
        congrArg Char.ofNat (show ((0 * 64 + (v / 64 % 32 + 192) % 32) * 64 + v % 64) = v by omega)
      rw [List.cons_append, List.singleton_append,
        scan_double rest (by rw [ha, hlead]) (htail v), ha, hbits, hjoined]
    · split
      · have hbyte : v / 4096 % 16 = v / 4096 := by omega
        have ha : (UInt8.ofNat (v / 4096 + 224)).toNat = v / 4096 + 224 :=
          toNat_ofNat_of_lt (by omega)
        obtain ⟨low, high, hlead, hlow, hhigh⟩ :=
          lead?_triple (v := v) (by omega) (by omega) (by omega)
        have hsecond := within_ofNat (by omega) hlow hhigh
        have hjoined : joined [(v / 4096 + 224) % 16, v / 64 % 64, v % 64] = Char.ofNat v :=
          congrArg Char.ofNat (show (((0 * 64 + (v / 4096 + 224) % 16) * 64 + v / 64 % 64) * 64 +
            v % 64) = v by omega)
        rw [hbyte, List.cons_append, List.cons_append, List.singleton_append,
          scan_triple rest (by rw [ha, hlead]) hsecond (htail v), ha, hbits, hbits, hjoined]
      · have hbyte : v / 262144 % 8 = v / 262144 := by omega
        have ha : (UInt8.ofNat (v / 262144 + 240)).toNat = v / 262144 + 240 :=
          toNat_ofNat_of_lt (by omega)
        obtain ⟨low, high, hlead, hlow, hhigh⟩ := lead?_quadruple (v := v) (by omega) (by omega)
        have hsecond := within_ofNat (by omega) hlow hhigh
        have hjoined : joined [(v / 262144 + 240) % 8, v / 4096 % 64, v / 64 % 64, v % 64] =
            Char.ofNat v :=
          congrArg Char.ofNat (show ((((0 * 64 + (v / 262144 + 240) % 8) * 64 + v / 4096 % 64) * 64 +
            v / 64 % 64) * 64 + v % 64) = v by omega)
        rw [hbyte, List.cons_append, List.cons_append, List.cons_append, List.singleton_append,
          scan_quadruple rest (by rw [ha, hlead]) hsecond (htail _) (htail v), ha, hbits, hbits,
          hbits, hjoined]

theorem scan_encode (cs : List Char) : scan (encode cs) = cs.map .char := by
  induction cs with
  | nil => rfl
  | cons c cs ih =>
    rw [encode, List.flatMap_cons, scan_encodeChar, ← encode, ih, List.map_cons]

theorem decode_encode (cs : List Char) : decode (encode cs) = .ok cs := by
  rw [decode, scan_encode, characters_map_char]

theorem decodeLenient_encode (cs : List Char) : decodeLenient (encode cs) = cs := by
  rw [decodeLenient, scan_encode, List.map_map]
  exact List.map_id cs

theorem decodeString_encodeString (s : String) : decodeString (encodeString s) = .ok s := by
  rw [decodeString, encodeString, decode_encode]
  exact congrArg Except.ok String.ofList_toList

theorem toNat_ofNat_of_ascii {n : Nat} (h : n < 128) : (Char.ofNat n).val.toNat = n := by
  have hvalid : n.isValidChar := .inl (by omega)
  rw [Char.ofNat, dif_pos hvalid]
  rfl

/-- Bytes of ASCII are the bytes of the characters that they number. -/
theorem encode_ascii {bs : Bytes} (h : ∀ b ∈ bs, b.toNat < 128) :
    encode (bs.map fun b => Char.ofNat b.toNat) = bs := by
  induction bs with
  | nil => rfl
  | cons b bs ih =>
    have hb := h b List.mem_cons_self
    have hchar : String.utf8EncodeChar (Char.ofNat b.toNat) = [b] := by
      unfold String.utf8EncodeChar
      rw [toNat_ofNat_of_ascii hb]
      dsimp only
      rw [if_pos (by omega), UInt8.ofNat_toNat]
    have hrest := ih fun x hx => h x (List.mem_cons_of_mem b hx)
    rw [List.map_cons, encode, List.flatMap_cons, hchar, ← encode, hrest]
    rfl

theorem lead?_eq_single {n : Nat} (h : lead? n = some .single) : n < 0x80 := by
  unfold lead? at h
  split at h
  · assumption
  · repeat' split at h
    all_goals cases h

theorem lead?_eq_double {n : Nat} (h : lead? n = some .double) : 0xC2 ≤ n ∧ n < 0xE0 := by
  unfold lead? at h
  repeat' split at h
  all_goals cases h
  omega

/-- The ranges of the second byte rule out longer forms than needed and halves of pairs. -/
theorem lead?_eq_triple {n low high : Nat} (h : lead? n = some (.triple low high)) :
    0xE0 ≤ n ∧ n < 0xF0 ∧ 0x80 ≤ low ∧ high ≤ 0xBF ∧ (n = 0xE0 → 0xA0 ≤ low) ∧
      (n = 0xED → high ≤ 0x9F) := by
  unfold lead? at h
  repeat' split at h
  all_goals cases h
  all_goals omega

/-- The ranges of the second byte rule out longer forms than needed and numbers of no character. -/
theorem lead?_eq_quadruple {n low high : Nat} (h : lead? n = some (.quadruple low high)) :
    0xF0 ≤ n ∧ n < 0xF5 ∧ 0x80 ≤ low ∧ high ≤ 0xBF ∧ (n = 0xF0 → 0x90 ≤ low) ∧
      (n = 0xF4 → high ≤ 0x8F) := by
  unfold lead? at h
  repeat' split at h
  all_goals cases h
  all_goals omega

theorem within_iff {low high : Nat} {b : UInt8} :
    within low high b = true ↔ low ≤ b.toNat ∧ b.toNat ≤ high := by
  simp [within]

theorem isTail_iff {b : UInt8} : isTail b = true ↔ 0x80 ≤ b.toNat ∧ b.toNat ≤ 0xBF := by
  simp [isTail]

theorem toNat_ofNat_of_valid {n : Nat} (h : n.isValidChar) : (Char.ofNat n).val.toNat = n := by
  rw [Char.ofNat, dif_pos h]
  rfl

theorem ofNat_eq_of_toNat {b : UInt8} {n : Nat} (h : n = b.toNat) : UInt8.ofNat n = b := by
  rw [h, UInt8.ofNat_toNat]

section

variable {a b c d : UInt8}

theorem encodeChar_single (lead : lead? a.toNat = some .single) :
    String.utf8EncodeChar (Char.ofNat a.toNat) = [a] := by
  have ha := lead?_eq_single lead
  unfold String.utf8EncodeChar
  rw [toNat_ofNat_of_valid (.inl (by omega))]
  dsimp only
  rw [if_pos (by omega), UInt8.ofNat_toNat]

theorem encodeChar_double (lead : lead? a.toNat = some .double) (second : isTail b = true) :
    String.utf8EncodeChar (joined [a.toNat % 32, tailBits b]) = [a, b] := by
  have ha := lead?_eq_double lead
  have hb := isTail_iff.1 second
  have hv : joined [a.toNat % 32, tailBits b] =
      Char.ofNat (a.toNat % 32 * 64 + b.toNat % 64) := by
    simp [joined, tailBits]
  unfold String.utf8EncodeChar
  rw [hv, toNat_ofNat_of_valid (.inl (by omega))]
  dsimp only
  rw [if_neg (by omega), if_pos (by omega), ofNat_eq_of_toNat (b := a) (by omega),
    ofNat_eq_of_toNat (b := b) (by omega)]

theorem encodeChar_triple {low high : Nat} (lead : lead? a.toNat = some (.triple low high))
    (second : within low high b = true) (third : isTail c = true) :
    String.utf8EncodeChar (joined [a.toNat % 16, tailBits b, tailBits c]) = [a, b, c] := by
  have ha := lead?_eq_triple lead
  have hb := within_iff.1 second
  have hc := isTail_iff.1 third
  have hv : joined [a.toNat % 16, tailBits b, tailBits c] =
      Char.ofNat ((a.toNat % 16 * 64 + b.toNat % 64) * 64 + c.toNat % 64) := by
    simp [joined, tailBits]
  have hvalid : ((a.toNat % 16 * 64 + b.toNat % 64) * 64 + c.toNat % 64).isValidChar := by
    rw [Nat.isValidChar]
    omega
  unfold String.utf8EncodeChar
  rw [hv, toNat_ofNat_of_valid hvalid]
  dsimp only
  rw [if_neg (by omega), if_neg (by omega), if_pos (by omega),
    ofNat_eq_of_toNat (b := a) (by omega), ofNat_eq_of_toNat (b := b) (by omega),
    ofNat_eq_of_toNat (b := c) (by omega)]

theorem encodeChar_quadruple {low high : Nat} (lead : lead? a.toNat = some (.quadruple low high))
    (second : within low high b = true) (third : isTail c = true) (fourth : isTail d = true) :
    String.utf8EncodeChar (joined [a.toNat % 8, tailBits b, tailBits c, tailBits d]) =
      [a, b, c, d] := by
  have ha := lead?_eq_quadruple lead
  have hb := within_iff.1 second
  have hc := isTail_iff.1 third
  have hd := isTail_iff.1 fourth
  have hv : joined [a.toNat % 8, tailBits b, tailBits c, tailBits d] =
      Char.ofNat (((a.toNat % 8 * 64 + b.toNat % 64) * 64 + c.toNat % 64) * 64 + d.toNat % 64) := by
    simp [joined, tailBits]
  have hvalid : (((a.toNat % 8 * 64 + b.toNat % 64) * 64 + c.toNat % 64) * 64 +
      d.toNat % 64).isValidChar := by
    rw [Nat.isValidChar]
    omega
  unfold String.utf8EncodeChar
  rw [hv, toNat_ofNat_of_valid hvalid]
  dsimp only
  rw [if_neg (by omega), if_neg (by omega), if_neg (by omega),
    ofNat_eq_of_toNat (b := a) (by omega), ofNat_eq_of_toNat (b := b) (by omega),
    ofNat_eq_of_toNat (b := c) (by omega), ofNat_eq_of_toNat (b := d) (by omega)]

end

theorem map_char_of_characters {index : Nat} {pieces : List Piece} {cs : List Char}
    (h : characters index pieces = .ok cs) : pieces = cs.map .char := by
  induction pieces generalizing index cs with
  | nil =>
    cases h
    rfl
  | cons p rest ih =>
    cases p with
    | char c =>
      rw [characters] at h
      cases hrest : characters (index + c.utf8Size) rest with
      | error fault => simp [hrest, Except.map] at h
      | ok cs' =>
        rw [hrest] at h
        cases h
        rw [ih hrest, List.map_cons]
    | bad n => cases h
    | short => cases h

theorem exists_of_char_cons {c : Char} {ps : List Piece} {cs : List Char}
    (h : Piece.char c :: ps = cs.map .char) : ∃ rest, cs = c :: rest ∧ ps = rest.map .char := by
  cases cs with
  | nil => cases h
  | cons x rest =>
    obtain ⟨hx, hrest⟩ := List.cons.inj h
    exact ⟨rest, by rw [Piece.char.inj hx], hrest⟩

theorem cons_ne_map_char {p : Piece} (hp : ∀ c, p ≠ .char c) (ps : List Piece) (cs : List Char) :
    p :: ps ≠ cs.map .char := by
  cases cs with
  | nil => simp
  | cons c cs => simp [hp c]

/-- Bytes with only characters among their pieces are the bytes of those. -/
theorem eq_encode_of_scan {bytes : Bytes} {cs : List Char} (h : scan bytes = cs.map .char) :
    bytes = encode cs := by
  have hstep : ∀ {c : Char} {front rest : Bytes} {tail : List Char},
      String.utf8EncodeChar c = front → rest = encode tail → front ++ rest = encode (c :: tail) := by
    rintro c front rest tail rfl rfl
    exact List.flatMap_cons.symm
  fun_induction scan bytes generalizing cs with
  | case1 =>
    rw [List.map_eq_nil_iff.1 h.symm]
    rfl
  | case3 a rest lead ih =>
    obtain ⟨tail, rfl, htail⟩ := exists_of_char_cons h
    exact hstep (encodeChar_single lead) (ih htail)
  | case5 a lead b rest second ih =>
    obtain ⟨tail, rfl, htail⟩ := exists_of_char_cons h
    exact hstep (encodeChar_double lead second) (ih htail)
  | case9 a low high lead b second c rest third ih =>
    obtain ⟨tail, rfl, htail⟩ := exists_of_char_cons h
    exact hstep (encodeChar_triple lead second third) (ih htail)
  | case15 a low high lead b second c third d rest fourth ih =>
    obtain ⟨tail, rfl, htail⟩ := exists_of_char_cons h
    exact hstep (encodeChar_quadruple lead second third fourth) (ih htail)
  -- in every other case a piece is no character
  | _ => exact absurd h (cons_ne_map_char (by simp) _ _)

/-- Strict decoding accepts the bytes of a text and nothing else. -/
theorem decode_eq_ok_iff {bytes : Bytes} {cs : List Char} :
    decode bytes = .ok cs ↔ bytes = encode cs := by
  constructor
  · exact fun h => eq_encode_of_scan (map_char_of_characters h)
  · rintro rfl
    exact decode_encode cs

theorem decodeString_eq_ok_iff {bytes : Bytes} {s : String} :
    decodeString bytes = .ok s ↔ bytes = encodeString s := by
  rw [decodeString, encodeString, ← decode_eq_ok_iff]
  cases decode bytes with
  | error fault => simp [Except.map]
  | ok cs => simp [Except.map, String.ext_iff]

theorem encode_injective : Function.Injective encode := by
  intro cs ds h
  have hdecode := decode_encode cs
  rw [h, decode_encode] at hdecode
  exact (Except.ok.inj hdecode).symm

end ReleaseBulletin.Bytes.Utf8

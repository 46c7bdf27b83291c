import ReleaseBulletin.Bytes.Base64

/-!
The symbols of a byte string are decoded as the byte string, and no other symbols are.
-/
namespace ReleaseBulletin.Bytes.Base64

theorem valueAt_symbol (offset : Nat) {v : Nat} (h : v < 64) : valueAt offset (symbol v) = .ok v := by
  rw [valueAt, value?_symbol h]

theorem symbol_ne_pad {v : Nat} (h : v < 64) : symbol v ≠ pad := by
  intro he
  have hv := value?_symbol h
  rw [he, value?_pad] at hv
  cases hv

/-- Symbols are visible characters of ASCII. -/
theorem symbol_visible (v : Nat) : 32 < (symbol v).toNat ∧ (symbol v).toNat < 127 := by
  unfold symbol
  repeat' split
  all_goals first
    | decide
    | (rw [UInt8.toNat_ofNat']; omega)

theorem visible_of_mem_encode {bs : Bytes} : ∀ s ∈ encode bs, 32 < s.toNat ∧ s.toNat < 127 := by
  have hpad : 32 < pad.toNat ∧ pad.toNat < 127 := by decide
  induction bs using encode.induct with
  | case1 => simp [encode]
  | case2 a => simp [encode, symbol_visible, hpad]
  | case3 a b => simp [encode, symbol_visible, hpad]
  | case4 a b c rest ih => simpa [encode, symbol_visible] using ih

theorem byteOf_toNat (a : UInt8) : byteOf a.toNat = a := UInt8.ofNat_toNat

/-- The bytes of the values that three bytes are split into. -/
theorem triple_split (a b c : UInt8) :
    triple (a.toNat / 4) (a.toNat % 4 * 16 + b.toNat / 16) (b.toNat % 16 * 4 + c.toNat / 64)
      (c.toNat % 64) = [a, b, c] := by
  have ha := a.toNat_lt
  have hb := b.toNat_lt
  have hc := c.toNat_lt
  have h₁ : a.toNat / 4 * 4 + (a.toNat % 4 * 16 + b.toNat / 16) / 16 = a.toNat := by omega
  have h₂ : (a.toNat % 4 * 16 + b.toNat / 16) % 16 * 16 + (b.toNat % 16 * 4 + c.toNat / 64) / 4 =
      b.toNat := by omega
  have h₃ : (b.toNat % 16 * 4 + c.toNat / 64) % 4 * 64 + c.toNat % 64 = c.toNat := by omega
  rw [triple, h₁, h₂, h₃, byteOf_toNat, byteOf_toNat, byteOf_toNat]

theorem length_encode (bs : Bytes) : (encode bs).length % 4 = 0 := by
  induction bs using encode.induct with
  | case1 => simp [encode]
  | case2 a => simp [encode]
  | case3 a b => simp [encode]
  | case4 a b c rest ih =>
    simp only [encode, List.length_cons]
    omega

theorem strayLast?_encode (bs : Bytes) : strayLast? (encode bs) = none := by
  rw [strayLast?]
  split
  · refine if_neg ?_
    rw [length_encode]
    omega
  · rfl

section Groups

variable (offset : Nat) {x y z u : Nat}

theorem decodeLast_one (hx : x < 64) (hy : y < 64) (unused : y % 16 = 0) :
    decodeLast offset (symbol x) (symbol y) pad pad = .ok [byteOf (x * 4 + y / 16)] := by
  simp [decodeLast, valueAt_symbol, hx, hy, unused, Bind.bind, Except.bind, Pure.pure, Except.pure]

theorem decodeLast_two (hx : x < 64) (hy : y < 64) (hz : z < 64) (unused : z % 4 = 0) :
    decodeLast offset (symbol x) (symbol y) (symbol z) pad =
      .ok [byteOf (x * 4 + y / 16), byteOf (y % 16 * 16 + z / 4)] := by
  simp [decodeLast, valueAt_symbol, symbol_ne_pad, hx, hy, hz, unused, Bind.bind, Except.bind,
    Pure.pure, Except.pure]

theorem decodeLast_three (hx : x < 64) (hy : y < 64) (hz : z < 64) (hu : u < 64) :
    decodeLast offset (symbol x) (symbol y) (symbol z) (symbol u) = .ok (triple x y z u) := by
  simp [decodeLast, valueAt_symbol, symbol_ne_pad, hx, hy, hz, hu, Bind.bind, Except.bind,
    Pure.pure, Except.pure]

theorem decodeFrom_group (hx : x < 64) (hy : y < 64) (hz : z < 64) (hu : u < 64) {more : Bytes}
    {bs : Bytes} (hmore : decodeFrom (offset + 4) more = .ok bs) :
    decodeFrom offset (symbol x :: symbol y :: symbol z :: symbol u :: more) =
      .ok (triple x y z u ++ bs) := by
  cases more with
  | nil =>
    rw [decodeFrom] at hmore
    obtain rfl := Except.ok.inj hmore
    rw [decodeFrom, decodeLast_three offset hx hy hz hu, List.append_nil]
  | cons s more =>
    simp [decodeFrom, valueAt_symbol, hx, hy, hz, hu, hmore, Bind.bind, Except.bind, Pure.pure,
      Except.pure]

end Groups

theorem decodeFrom_encode (offset : Nat) (bs : Bytes) : decodeFrom offset (encode bs) = .ok bs := by
  induction bs using encode.induct generalizing offset with
  | case1 => rw [encode, decodeFrom]
  | case2 a =>
    have ha := a.toNat_lt
    have hbyte : a.toNat / 4 * 4 + a.toNat % 4 * 16 / 16 = a.toNat := by omega
    rw [encode, decodeFrom, decodeLast_one offset (by omega) (by omega) (by omega), hbyte,
      byteOf_toNat]
  | case3 a b =>
    have ha := a.toNat_lt
    have hb := b.toNat_lt
    have h₁ : a.toNat / 4 * 4 + (a.toNat % 4 * 16 + b.toNat / 16) / 16 = a.toNat := by omega
    have h₂ : (a.toNat % 4 * 16 + b.toNat / 16) % 16 * 16 + b.toNat % 16 * 4 / 4 = b.toNat := by
      omega
    rw [encode, decodeFrom, decodeLast_two offset (by omega) (by omega) (by omega) (by omega), h₁,
      h₂, byteOf_toNat, byteOf_toNat]
  | case4 a b c rest ih =>
    have ha := a.toNat_lt
    have hb := b.toNat_lt
    have hc := c.toNat_lt
    rw [encode, decodeFrom_group offset (by omega) (by omega) (by omega) (by omega)
      (ih (offset + 4)), triple_split]
    rfl

theorem decode_encode (bs : Bytes) : decode (encode bs) = .ok bs := by
  rw [decode, strayLast?_encode, decodeFrom_encode]

/-- A symbol with a value is the symbol of that value. -/
theorem symbol_of_value? {s : UInt8} {v : Nat} (h : value? s = some v) : symbol v = s ∧ v < 64 := by
  have hall : ∀ n < 256, ∀ v ∈ value? (UInt8.ofNat n), symbol v = UInt8.ofNat n ∧ v < 64 := by
    decide +kernel
  have hs := hall s.toNat s.toNat_lt
  rw [UInt8.ofNat_toNat] at hs
  exact hs v h

theorem valueAt_eq_ok {offset : Nat} {s : UInt8} {v : Nat} (h : valueAt offset s = .ok v) :
    s = symbol v ∧ v < 64 := by
  rw [valueAt] at h
  split at h
  · next hv =>
    cases h
    exact ⟨(symbol_of_value? hv).1.symm, (symbol_of_value? hv).2⟩
  · cases h

theorem toNat_byteOf {n : Nat} (h : n < 256) : (byteOf n).toNat = n := by
  rw [byteOf, UInt8.toNat_ofNat', Nat.mod_eq_of_lt h]

section Values

variable {x y z u : Nat} (hx : x < 64) (hy : y < 64)
include hx hy

theorem encode_one (unused : y % 16 = 0) :
    encode [byteOf (x * 4 + y / 16)] = [symbol x, symbol y, pad, pad] := by
  have hfirst : (byteOf (x * 4 + y / 16)).toNat = x * 4 + y / 16 := toNat_byteOf (by omega)
  have hx' : (x * 4 + y / 16) / 4 = x := by omega
  have hy' : (x * 4 + y / 16) % 4 * 16 = y := by omega
  rw [encode, hfirst, hx', hy']

theorem encode_two (hz : z < 64) (unused : z % 4 = 0) :
    encode [byteOf (x * 4 + y / 16), byteOf (y % 16 * 16 + z / 4)] =
      [symbol x, symbol y, symbol z, pad] := by
  have hfirst : (byteOf (x * 4 + y / 16)).toNat = x * 4 + y / 16 := toNat_byteOf (by omega)
  have hsecond : (byteOf (y % 16 * 16 + z / 4)).toNat = y % 16 * 16 + z / 4 :=
    toNat_byteOf (by omega)
  have hx' : (x * 4 + y / 16) / 4 = x := by omega
  have hy' : (x * 4 + y / 16) % 4 * 16 + (y % 16 * 16 + z / 4) / 16 = y := by omega
  have hz' : (y % 16 * 16 + z / 4) % 16 * 4 = z := by omega
  rw [encode, hfirst, hsecond, hx', hy', hz']

theorem encode_triple (hz : z < 64) (hu : u < 64) (more : Bytes) :
    encode (triple x y z u ++ more) =
      symbol x :: symbol y :: symbol z :: symbol u :: encode more := by
  have hfirst : (byteOf (x * 4 + y / 16)).toNat = x * 4 + y / 16 := toNat_byteOf (by omega)
  have hsecond : (byteOf (y % 16 * 16 + z / 4)).toNat = y % 16 * 16 + z / 4 :=
    toNat_byteOf (by omega)
  have hthird : (byteOf (z % 4 * 64 + u)).toNat = z % 4 * 64 + u := toNat_byteOf (by omega)
  have hx' : (x * 4 + y / 16) / 4 = x := by omega
  have hy' : (x * 4 + y / 16) % 4 * 16 + (y % 16 * 16 + z / 4) / 16 = y := by omega
  have hz' : (y % 16 * 16 + z / 4) % 16 * 4 + (z % 4 * 64 + u) / 64 = z := by omega
  have hu' : (z % 4 * 64 + u) % 64 = u := by omega
  rw [triple, List.cons_append, List.cons_append, List.singleton_append, encode, hfirst, hsecond,
    hthird, hx', hy', hz', hu']

end Values

theorem bind_eq_ok {α β : Type} {x : Except Fault α} {f : α → Except Fault β} {b : β}
    (h : (x >>= f) = .ok b) : ∃ a, x = .ok a ∧ f a = .ok b := by
  cases x with
  | error e => cases h
  | ok a => exact ⟨a, rfl, h⟩

theorem eq_encode_of_decodeLast {offset : Nat} {s₀ s₁ s₂ s₃ : UInt8} {bs : Bytes}
    (h : decodeLast offset s₀ s₁ s₂ s₃ = .ok bs) : [s₀, s₁, s₂, s₃] = encode bs := by
  obtain ⟨x, h₀, hfirst⟩ := bind_eq_ok h
  obtain ⟨y, h₁, hsecond⟩ := bind_eq_ok hfirst
  obtain ⟨rfl, hx⟩ := valueAt_eq_ok h₀
  obtain ⟨rfl, hy⟩ := valueAt_eq_ok h₁
  dsimp only at hsecond
  by_cases hpad₂ : s₂ = pad
  · rw [if_pos hpad₂] at hsecond
    by_cases hpad₃ : s₃ = pad
    · rw [if_neg (not_not_intro hpad₃)] at hsecond
      by_cases unused : y % 16 = 0
      · rw [if_neg (not_not_intro unused)] at hsecond
        cases hsecond
        rw [hpad₂, hpad₃, encode_one hx hy unused]
      · rw [if_pos unused] at hsecond
        cases hsecond
    · rw [if_pos hpad₃] at hsecond
      cases hsecond
  · rw [if_neg hpad₂] at hsecond
    obtain ⟨z, h₂, hthird⟩ := bind_eq_ok hsecond
    obtain ⟨rfl, hz⟩ := valueAt_eq_ok h₂
    by_cases hpad₃ : s₃ = pad
    · rw [if_pos hpad₃] at hthird
      by_cases unused : z % 4 = 0
      · rw [if_neg (not_not_intro unused)] at hthird
        cases hthird
        rw [hpad₃, encode_two hx hy hz unused]
      · rw [if_pos unused] at hthird
        cases hthird
    · rw [if_neg hpad₃] at hthird
      obtain ⟨u, h₃, hlast⟩ := bind_eq_ok hthird
      obtain ⟨rfl, hu⟩ := valueAt_eq_ok h₃
      cases hlast
      rw [← List.append_nil (triple x y z u), encode_triple hx hy hz hu, encode]

theorem eq_encode_of_decodeFrom {offset : Nat} {symbols bs : Bytes}
    (h : decodeFrom offset symbols = .ok bs) : symbols = encode bs := by
  induction offset, symbols using decodeFrom.induct generalizing bs with
  | case1 offset =>
    cases h
    rfl
  | case2 offset s₀ =>
    obtain ⟨_, -, hlast⟩ := bind_eq_ok h
    cases hlast
  | case3 offset s₀ s₁ =>
    obtain ⟨_, -, hfirst⟩ := bind_eq_ok h
    obtain ⟨_, -, hlast⟩ := bind_eq_ok hfirst
    cases hlast
  | case4 offset s₀ s₁ s₂ =>
    obtain ⟨_, -, hfirst⟩ := bind_eq_ok h
    obtain ⟨_, -, hsecond⟩ := bind_eq_ok hfirst
    dsimp only at hsecond
    by_cases hpad : s₂ ≠ pad
    · rw [if_pos hpad] at hsecond
      obtain ⟨_, -, hlast⟩ := bind_eq_ok hsecond
      cases hlast
    · rw [if_neg hpad] at hsecond
      cases hsecond
  | case5 offset s₀ s₁ s₂ s₃ => exact eq_encode_of_decodeLast h
  | case6 offset s₀ s₁ s₂ s₃ s₄ rest ih =>
    obtain ⟨x, h₀, hfirst⟩ := bind_eq_ok h
    obtain ⟨y, h₁, hsecond⟩ := bind_eq_ok hfirst
    obtain ⟨z, h₂, hthird⟩ := bind_eq_ok hsecond
    obtain ⟨u, h₃, hfourth⟩ := bind_eq_ok hthird
    obtain ⟨more, hmore, hlast⟩ := bind_eq_ok hfourth
    obtain ⟨rfl, hx⟩ := valueAt_eq_ok h₀
    obtain ⟨rfl, hy⟩ := valueAt_eq_ok h₁
    obtain ⟨rfl, hz⟩ := valueAt_eq_ok h₂
    obtain ⟨rfl, hu⟩ := valueAt_eq_ok h₃
    cases hlast
    rw [encode_triple hx hy hz hu, ih hmore]

/-- Decoding accepts what encoding writes and nothing else. -/
theorem decode_eq_ok_iff {symbols bs : Bytes} : decode symbols = .ok bs ↔ symbols = encode bs := by
  constructor
  · intro h
    rw [decode] at h
    split at h
    · cases h
    · exact eq_encode_of_decodeFrom h
  · rintro rfl
    exact decode_encode bs

end ReleaseBulletin.Bytes.Base64

import ReleaseBulletin.Bytes.Basic

/-!
Base64 with the standard alphabet and padding. Decoding accepts exactly what encoding writes: no
missing or surplus padding and no bits that the encoded bytes do not use.
-/
namespace ReleaseBulletin.Bytes.Base64

/-- The padding symbol, an equals sign. -/
def pad : UInt8 := 61

def symbol (v : Nat) : UInt8 :=
  if v < 26 then UInt8.ofNat (65 + v)
  else if v < 52 then UInt8.ofNat (97 + (v - 26))
  else if v < 62 then UInt8.ofNat (48 + (v - 52))
  else if v = 62 then 43
  else 47

def value? (b : UInt8) : Option Nat :=
  let n := b.toNat
  if 65 ≤ n ∧ n ≤ 90 then some (n - 65)
  else if 97 ≤ n ∧ n ≤ 122 then some (n - 97 + 26)
  else if 48 ≤ n ∧ n ≤ 57 then some (n - 48 + 52)
  else if n = 43 then some 62
  else if n = 47 then some 63
  else none

def encode : Bytes → Bytes
  | [] => []
  | [a] => [symbol (a.toNat / 4), symbol (a.toNat % 4 * 16), pad, pad]
  | [a, b] =>
    [symbol (a.toNat / 4), symbol (a.toNat % 4 * 16 + b.toNat / 16), symbol (b.toNat % 16 * 4), pad]
  | a :: b :: c :: rest =>
    symbol (a.toNat / 4) :: symbol (a.toNat % 4 * 16 + b.toNat / 16) ::
      symbol (b.toNat % 16 * 4 + c.toNat / 64) :: symbol (c.toNat % 64) :: encode rest

/-- Why symbols are not the encoding of a byte string. -/
inductive Fault where
  /-- A byte outside the alphabet, or padding where none may stand. -/
  | symbol (byte : UInt8) (offset : Nat)
  /-- The last symbol has bits that belong to no byte. -/
  | lastSymbol (byte : UInt8) (offset : Nat)
  /-- A single symbol remains after the groups of four. -/
  | length (count : Nat)
  /-- Padding is missing. -/
  | padding
  deriving DecidableEq, Repr

def Fault.message : Fault → String
  | .symbol byte offset => s!"Invalid symbol {byte.toNat}, offset {offset}."
  | .lastSymbol byte offset => s!"Invalid last symbol {byte.toNat}, offset {offset}."
  | .length count => s!"Invalid input length: {count}"
  | .padding => "Invalid padding"

def valueAt (offset : Nat) (b : UInt8) : Except Fault Nat :=
  match value? b with
  | some v => .ok v
  | none => .error (.symbol b offset)

/-- The byte made of the high bits of one value and the low bits of another. -/
def byteOf (n : Nat) : UInt8 := UInt8.ofNat n

def triple (a b c d : Nat) : Bytes :=
  [byteOf (a * 4 + b / 16), byteOf (b % 16 * 16 + c / 4), byteOf (c % 4 * 64 + d)]

/-- Decodes the last group, which may be padded. -/
def decodeLast (offset : Nat) (s₀ s₁ s₂ s₃ : UInt8) : Except Fault Bytes := do
  let a ← valueAt offset s₀
  let b ← valueAt (offset + 1) s₁
  if s₂ = pad then
    if s₃ ≠ pad then throw (.symbol pad (offset + 2))
    if b % 16 ≠ 0 then throw (.lastSymbol s₁ (offset + 1))
    return [byteOf (a * 4 + b / 16)]
  let c ← valueAt (offset + 2) s₂
  if s₃ = pad then
    if c % 4 ≠ 0 then throw (.lastSymbol s₂ (offset + 2))
    return [byteOf (a * 4 + b / 16), byteOf (b % 16 * 16 + c / 4)]
  let d ← valueAt (offset + 3) s₃
  return triple a b c d

/-- Decodes groups of four symbols, the first of which stands at the offset. -/
def decodeFrom (offset : Nat) : Bytes → Except Fault Bytes
  | [] => .ok []
  | [s₀] => do
    let _ ← valueAt offset s₀
    throw (.length (offset + 1))
  | [s₀, s₁] => do
    let _ ← valueAt offset s₀
    let _ ← valueAt (offset + 1) s₁
    throw .padding
  | [s₀, s₁, s₂] => do
    let _ ← valueAt offset s₀
    let _ ← valueAt (offset + 1) s₁
    if s₂ ≠ pad then
      let _ ← valueAt (offset + 2) s₂
    throw .padding
  | [s₀, s₁, s₂, s₃] => decodeLast offset s₀ s₁ s₂ s₃
  | s₀ :: s₁ :: s₂ :: s₃ :: s₄ :: rest => do
    let a ← valueAt offset s₀
    let b ← valueAt (offset + 1) s₁
    let c ← valueAt (offset + 2) s₂
    let d ← valueAt (offset + 3) s₃
    let more ← decodeFrom (offset + 4) (s₄ :: rest)
    return triple a b c d ++ more

/-- A last symbol that makes a group of its own and lies outside the alphabet, padding excepted. -/
def strayLast? (symbols : Bytes) : Option Fault :=
  match symbols.getLast? with
  | some b =>
    if symbols.length % 4 = 1 ∧ b ≠ pad ∧ value? b = none then
      some (.symbol b (symbols.length - 1))
    else none
  | none => none

/-- The bytes that symbols encode. A stray last symbol is reported ahead of every other fault. -/
def decode (symbols : Bytes) : Except Fault Bytes :=
  match strayLast? symbols with
  | some fault => .error fault
  | none => decodeFrom 0 symbols

theorem value?_symbol {v : Nat} (h : v < 64) : value? (symbol v) = some v := by
  revert v
  decide

theorem value?_pad : value? pad = none := by decide

end ReleaseBulletin.Bytes.Base64

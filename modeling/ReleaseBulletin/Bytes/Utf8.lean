import ReleaseBulletin.Bytes.Basic

/-!
UTF-8. `scan` splits any bytes into characters and the longest stretches that begin no character;
strict decoding reports the first such stretch, lenient decoding replaces each by one mark.
-/
namespace ReleaseBulletin.Bytes.Utf8

def encode (cs : List Char) : Bytes := cs.flatMap String.utf8EncodeChar

def size (cs : List Char) : Nat := (encode cs).length

/-- What stands at some place of a byte string: a character, `length` bytes that begin none, or the
beginning of a character that the end cuts off. -/
inductive Piece where
  | char (c : Char)
  | bad (length : Nat)
  | short
  deriving DecidableEq, Repr

/-- What the first byte of a character says: how many bytes follow, and the range of the next. -/
inductive Lead where
  | single
  | double
  | triple (low high : Nat)
  | quadruple (low high : Nat)
  deriving DecidableEq, Repr

/-- What a first byte says. A character has its shortest form only, and halves of pairs are no
characters; so some second bytes are ruled out. -/
def lead? (b : Nat) : Option Lead :=
  if b < 0x80 then some .single
  else if b < 0xC2 then none
  else if b < 0xE0 then some .double
  else if b = 0xE0 then some (.triple 0xA0 0xBF)
  else if b = 0xED then some (.triple 0x80 0x9F)
  else if b < 0xF0 then some (.triple 0x80 0xBF)
  else if b = 0xF0 then some (.quadruple 0x90 0xBF)
  else if b < 0xF4 then some (.quadruple 0x80 0xBF)
  else if b = 0xF4 then some (.quadruple 0x80 0x8F)
  else none

/-- A byte that continues a character. -/
def isTail (b : UInt8) : Bool := 0x80 ≤ b.toNat && b.toNat ≤ 0xBF

/-- A byte in a range. -/
def within (low high : Nat) (b : UInt8) : Bool := low ≤ b.toNat && b.toNat ≤ high

/-- The character with the given six-bit groups, the first of which may be wider. -/
def joined (groups : List Nat) : Char := Char.ofNat (groups.foldl (fun n g => n * 64 + g) 0)

/-- The low six bits of a continuation byte. -/
def tailBits (b : UInt8) : Nat := b.toNat % 64

/-- The pieces of a byte string, in order. -/
def scan : Bytes → List Piece
  | [] => []
  | a :: rest =>
    match lead? a.toNat with
    | none => .bad 1 :: scan rest
    | some .single => .char (Char.ofNat a.toNat) :: scan rest
    | some .double =>
      match rest with
      | [] => [.short]
      | b :: rest₁ =>
        if isTail b then .char (joined [a.toNat % 32, tailBits b]) :: scan rest₁
        else .bad 1 :: scan (b :: rest₁)
    | some (.triple low high) =>
      match rest with
      | [] => [.short]
      | b :: rest₁ =>
        if within low high b then
          match rest₁ with
          | [] => [.short]
          | c :: rest₂ =>
            if isTail c then .char (joined [a.toNat % 16, tailBits b, tailBits c]) :: scan rest₂
            else .bad 2 :: scan (c :: rest₂)
        else .bad 1 :: scan (b :: rest₁)
    | some (.quadruple low high) =>
      match rest with
      | [] => [.short]
      | b :: rest₁ =>
        if within low high b then
          match rest₁ with
          | [] => [.short]
          | c :: rest₂ =>
            if isTail c then
              match rest₂ with
              | [] => [.short]
              | d :: rest₃ =>
                if isTail d then
                  .char (joined [a.toNat % 8, tailBits b, tailBits c, tailBits d]) :: scan rest₃
                else .bad 3 :: scan (d :: rest₃)
            else .bad 2 :: scan (c :: rest₂)
        else .bad 1 :: scan (b :: rest₁)

/-- The first stretch of bytes that is no character: where it starts, and its length unless the end
cuts it off. -/
structure Fault where
  index : Nat
  length : Option Nat
  deriving DecidableEq, Repr

def Fault.message (f : Fault) : String :=
  match f.length with
  | some n => s!"invalid utf-8 sequence of {n} bytes from index {f.index}"
  | none => s!"incomplete utf-8 byte sequence from index {f.index}"

/-- The characters of pieces without a fault; `index` counts the bytes before them. -/
def characters (index : Nat) : List Piece → Except Fault (List Char)
  | [] => .ok []
  | .char c :: rest => (characters (index + c.utf8Size) rest).map (c :: ·)
  | .bad n :: _ => .error ⟨index, some n⟩
  | .short :: _ => .error ⟨index, none⟩

/-- The text of a byte string, or its first fault. -/
def decode (bytes : Bytes) : Except Fault (List Char) := characters 0 (scan bytes)

/-- The mark that replaces bytes which are no character. -/
def replacement : Char := Char.ofNat 0xFFFD

/-- The character that stands for a piece. -/
def Piece.shown : Piece → Char
  | .char c => c
  | .bad _ => replacement
  | .short => replacement

/-- The text of a byte string, with one mark for each stretch that is no character. -/
def decodeLenient (bytes : Bytes) : List Char := (scan bytes).map Piece.shown

/-- The text of a byte string as a string, or its first fault. -/
def decodeString (bytes : Bytes) : Except Fault String := (decode bytes).map String.ofList

def encodeString (s : String) : Bytes := encode s.toList

theorem encode_append (s t : List Char) : encode (s ++ t) = encode s ++ encode t := by
  simp [encode]

theorem characters_map_char (index : Nat) (cs : List Char) :
    characters index (cs.map Piece.char) = .ok cs := by
  induction cs generalizing index with
  | nil => rfl
  | cons c rest ih => rw [List.map_cons, characters, ih]; rfl

end ReleaseBulletin.Bytes.Utf8

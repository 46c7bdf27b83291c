import ReleaseBulletin.Bytes.Utf8
import ReleaseBulletin.Text.Radix

/-!
Percent-encoding of URL parts, and the form encoding of query pairs.
-/
namespace ReleaseBulletin.Url.Percent
open Text.Radix

def encodeByte (b : UInt8) : List Char :=
  ['%', upperDigit (b.toNat / 16), upperDigit (b.toNat % 16)]

def encodeChar (c : Char) : List Char := (Bytes.Utf8.encode [c]).flatMap encodeByte

def isControl (c : Char) : Bool := c.toNat < 0x20 || c.toNat = 0x7F

/-- A character that some part of a URL cannot hold: one outside ASCII, a control character, or one
of the given characters. -/
def isReserved (special : List Char) (c : Char) : Bool :=
  0x80 ≤ c.toNat || isControl c || special.contains c

def querySet : List Char := [' ', '"', '#', '<', '>']

/-- The characters encoded in the query of a web address. -/
def webQuerySet : List Char := '\'' :: querySet

def fragmentSet : List Char := [' ', '"', '<', '>', '\x60']

def pathSet : List Char := fragmentSet ++ ['#', '?', '\x7b', '\x7d']

def segmentSet : List Char := pathSet ++ ['/', '%']

/-- The characters encoded in one segment of the path of a web address. -/
def webSegmentSet : List Char := segmentSet ++ ['\\']

def userSet : List Char := pathSet ++ ['/', ':', ';', '=', '@', '[', '\\', ']', '^', '|']

def encode (special : List Char) (cs : List Char) : List Char :=
  cs.flatMap fun c => if isReserved special c then encodeChar c else [c]

/-- The bytes of a text in which encoded bytes are decoded; an incomplete encoding stands for
itself. -/
def decode : List Char → Bytes
  | [] => []
  | '%' :: a :: b :: rest =>
    match hexValue? a, hexValue? b with
    | some x, some y => UInt8.ofNat (x * 16 + y) :: decode rest
    | _, _ => Bytes.Utf8.encode ['%'] ++ decode (a :: b :: rest)
  | c :: rest => Bytes.Utf8.encode [c] ++ decode rest

def isFormSafe (c : Char) : Bool :=
  c.isAlphanum || c == '*' || c == '-' || c == '.' || c == '_'

/-- The form encoding of a text: a plus sign for a space, all other unsafe characters by bytes. -/
def formEncode (cs : List Char) : List Char :=
  cs.flatMap fun c => if isFormSafe c then [c] else if c = ' ' then ['+'] else encodeChar c

def formPairs : List (String × String) → List Char
  | [] => []
  | [(k, v)] => formEncode k.toList ++ '=' :: formEncode v.toList
  | (k, v) :: rest => formEncode k.toList ++ '=' :: formEncode v.toList ++ '&' :: formPairs rest

def formDecode (cs : List Char) : Bytes := decode (cs.map fun c => if c = '+' then ' ' else c)

end ReleaseBulletin.Url.Percent

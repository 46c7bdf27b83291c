import ReleaseBulletin.Document.Tree
import ReleaseBulletin.Width

/-!
Numbers of JSON. A number written without fraction and exponent is an integer when 64 bits hold it.
Any other is a binary fraction computed from the leading digits that 64 bits hold by one
multiplication or division by a power of ten, which is not always the nearest binary fraction.
-/
namespace ReleaseBulletin.Json
open Document

/-- The parts of a written number. -/
structure Numeral where
  negative : Bool
  whole : List Char
  /-- The digits after the point. -/
  fraction : Option (List Char)
  /-- The sign (`true` is minus) and the digits of the exponent. -/
  exponent : Option (Bool × List Char)
  deriving DecidableEq, Repr

def Numeral.spanDigits (cs : List Char) : List Char × List Char :=
  (cs.takeWhile Char.isDigit, cs.dropWhile Char.isDigit)

/-- The whole part: a lone zero or digits that start with another. -/
def Numeral.scanWhole (cs : List Char) : Option (List Char × List Char) :=
  match spanDigits cs with
  | ([], _) => none
  | (['0'], rest) => some (['0'], rest)
  | ('0' :: _, _) => none
  | (digits, rest) => some (digits, rest)

/-- The fraction, which has a digit at least. -/
def Numeral.scanFraction : List Char → Option (Option (List Char) × List Char)
  | '.' :: rest =>
    match spanDigits rest with
    | ([], _) => none
    | (digits, rest) => some (some digits, rest)
  | rest => some (none, rest)

def Numeral.scanSigned (negative : Bool) (cs : List Char) :
    Option (Option (Bool × List Char) × List Char) :=
  match spanDigits cs with
  | ([], _) => none
  | (digits, rest) => some (some (negative, digits), rest)

/-- The exponent, which has a digit at least. -/
def Numeral.scanExponent : List Char → Option (Option (Bool × List Char) × List Char)
  | c :: rest =>
    if c = 'e' ∨ c = 'E' then
      match rest with
      | '+' :: rest => scanSigned false rest
      | '-' :: rest => scanSigned true rest
      | rest => scanSigned false rest
    else some (none, c :: rest)
  | [] => some (none, [])

def Numeral.scan (cs : List Char) : Option (Numeral × List Char) := do
  let (negative, cs) := match cs with
    | '-' :: rest => (true, rest)
    | rest => (false, rest)
  let (whole, cs) ← scanWhole cs
  let (fraction, cs) ← scanFraction cs
  let (exponent, cs) ← scanExponent cs
  return (⟨negative, whole, fraction, exponent⟩, cs)

def Numeral.limit : Nat := Width.count 64 - 1

def Numeral.digit (c : Char) : Nat := c.toNat - '0'.toNat

/-- Appends digits to a number as long as it stays within 64 bits; the digits left over. -/
def Numeral.absorb (n : Nat) : List Char → Nat × List Char
  | [] => (n, [])
  | c :: rest => if limit < n * 10 + digit c then (n, c :: rest) else absorb (n * 10 + digit c) rest

def Numeral.power (k : Nat) : Float := Float.ofScientific 1 false k

/-- `x` times ten to the exponent, `none` when the result is too large. Exponents beyond the powers
of ten that exist are approached in steps of 308, and three steps take any 64-bit number to zero. -/
def Numeral.scale : Nat → Float → Int → Option Float
  | 0, x, _ => some x
  | steps + 1, x, e =>
    if e.natAbs ≤ 308 then
      if 0 ≤ e then
        let y := x * power e.natAbs
        if y.isInf then none else some y
      else some (x / power e.natAbs)
    else if x == 0.0 then some x
    else if 0 ≤ e then none
    else scale steps (x / power 308) (e + 308)

def Numeral.exponentValue : Option (Bool × List Char) → Int
  | none => 0
  | some (negative, digits) =>
    let n : Int := Nat.ofDigitChars 10 digits 0
    if negative then -n else n

def Numeral.decimal? (n : Numeral) : Option Float :=
  let (significand, dropped) := absorb 0 n.whole
  let (significand, used) := match n.fraction with
    | none => (significand, 0)
    | some digits =>
      let (m, rest) := absorb significand digits
      (m, digits.length - rest.length)
  let exponent : Int := dropped.length - used + exponentValue n.exponent
  (scale 4 (Float.ofNat significand) exponent).map fun x => if n.negative then -x else x

/-- The tree of a number. A zero with a minus sign is no integer. -/
def Numeral.tree (n : Numeral) : Tree :=
  let m := Nat.ofDigitChars 10 n.whole 0
  let fits := if n.negative then 0 < m && m ≤ Width.count 63 else m ≤ limit
  if n.fraction.isNone && n.exponent.isNone && fits then
    .integer (if n.negative then -m else m)
  else
    match n.decimal? with
    | some x => .decimal x
    | none => .unreadable

end ReleaseBulletin.Json

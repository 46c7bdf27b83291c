import ReleaseBulletin.Decimal.Shortest

/-!
Whole parts, quotients and remainders of binary fractions, computed on their exact values.
-/
namespace ReleaseBulletin.Decimal.Division

def isNegative (x : Float) : Bool := Width.count 63 ≤ x.toBits.toNat

def magnitude (x : Float) : Binary := .ofBits (x.toBits.toNat % Width.count 63)

/-- The greatest natural number that is not above a magnitude. -/
def floorOf (b : Binary) : Nat :=
  if 0 ≤ b.exponent then b.significand * Nat.pow 2 b.exponent.toNat
  else b.significand / Nat.pow 2 (-b.exponent).toNat

/-- The whole number before the point of a finite binary fraction. -/
def wholePart (x : Float) : Int :=
  let n : Int := floorOf (magnitude x)
  if isNegative x then -n else n

/-- The whole number that a finite binary fraction is. -/
def whole? (x : Float) : Option Int :=
  if x.isFinite && Float.ofInt (wholePart x) == x then some (wholePart x) else none

def binary? (i : Int) : Option Float :=
  let x := Float.ofInt i
  if x.isFinite && wholePart x == i then some x else none

/-- Two magnitudes as multiples of one power of two, and its exponent. -/
def aligned (a b : Binary) : Nat × Nat × Int :=
  let e := min a.exponent b.exponent
  let multiple (x : Binary) : Nat := x.significand * Nat.pow 2 (x.exponent - e).toNat
  (multiple a, multiple b, e)

/-- The remainder that has the sign of the dividend. It is below the divisor and needs no more
digits than the two have. -/
def remainder (x y : Float) : Float :=
  if x.isNaN || y.isNaN || x.isInf || y == 0.0 then 0.0 / 0.0
  else if y.isInf then x
  else
    let (a, b, e) := aligned (magnitude x) (magnitude y)
    let r := Float.scaleB (Float.ofNat (a % b)) e
    if isNegative x then -r else r

/-- A fraction without the digits after its point. -/
def truncated (x : Float) : Float := if x < 0.0 then x.ceil else x.floor

def quotient (x y : Float) : Float :=
  let q := truncated (x / y)
  if remainder x y < 0.0 then (if 0.0 < y then q - 1.0 else q + 1.0) else q

end ReleaseBulletin.Decimal.Division

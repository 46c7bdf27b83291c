import ReleaseBulletin.Decimal.Shortest

/-!
Written binary fractions: the shortest digits, positional or with an exponent.
-/
namespace ReleaseBulletin.Decimal

/-- Which magnitudes are written positionally: those whose decimal position (one more than the power
of ten of the first digit) lies in the range. -/
structure Layout where
  least : Option Int
  greatest : Option Int
  deriving DecidableEq, Repr

/-- Every magnitude is positional. -/
def Layout.plain : Layout := ⟨none, none⟩

/-- Positional from a ten-thousandth up to ten to the sixteenth. -/
def Layout.compact : Layout := ⟨some (-3), some 16⟩

/-- Whether a number whose point is at the position is written out. -/
def Layout.isPositional (l : Layout) (position : Int) : Bool :=
  l.least.all (· ≤ position) && l.greatest.all (position ≤ ·)

/-- The digits with a point at the position and at least one digit on either side of it. -/
def Layout.positional (digits : List Char) (position : Int) : List Char :=
  if position ≤ 0 then
    ['0', '.'] ++ List.replicate position.natAbs '0' ++ digits
  else
    let k := position.toNat
    if digits.length ≤ k then
      digits ++ List.replicate (k - digits.length) '0' ++ ['.', '0']
    else digits.take k ++ ['.'] ++ digits.drop k

/-- The digits with a point after the first, unless it is the only one, and an exponent. -/
def Layout.exponential (digits : List Char) (position : Int) : List Char :=
  let point := match digits.tail with
    | [] => []
    | more => '.' :: more
  let e := position - 1
  digits.take 1 ++ point ++ ['e'] ++ (if e < 0 then ['-'] else []) ++ Nat.toDigits 10 e.natAbs

def Layout.write (l : Layout) (x : Float) : String :=
  if x.isNaN then "NaN"
  else
    let bits := x.toBits.toNat
    let sign := if Width.count 63 ≤ bits then ['-'] else []
    let magnitude :=
      if x.isInf then "inf".toList
      else if bits % Width.count 63 = 0 then "0.0".toList
      else
        let d := (Binary.ofBits bits).shortest
        let digits := Nat.toDigits 10 d.digits
        let position := digits.length + d.exponent
        if l.isPositional position then positional digits position else exponential digits position
    String.ofList (sign ++ magnitude)

end ReleaseBulletin.Decimal

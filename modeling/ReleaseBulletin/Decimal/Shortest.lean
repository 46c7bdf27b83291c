import ReleaseBulletin.Width

/-!
The shortest decimal of a binary fraction: the fewest digits of which the nearest 64-bit binary
fraction is the given one, and of those the nearest to it.
-/
namespace ReleaseBulletin

/-- A positive 64-bit binary fraction, `significand` times two to the `exponent`. At the least
significand of an exponent the next lower fraction is nearer than the next higher one. -/
structure Decimal.Binary where
  significand : Nat
  exponent : Int
  least : Bool
  deriving DecidableEq, Repr

/-- The magnitude of a binary fraction that is neither zero nor infinite nor undefined. -/
def Decimal.Binary.ofBits (bits : Nat) : Binary :=
  let fraction := bits % Width.count 52
  let biased := bits / Width.count 52 % Width.count 11
  if biased = 0 then ⟨fraction, -1074, false⟩
  else ⟨fraction + Width.count 52, Int.ofNat biased - 1075, fraction == 0 && decide (1 < biased)⟩

/-- A decimal, `digits` times ten to the `exponent`. -/
structure Decimal where
  digits : Nat
  exponent : Int
  deriving DecidableEq, Repr

/-- A binary fraction and the reals that round to it, as numerators over one denominator: the value,
and its distances to the lower and the upper end. The ends belong to it when `closed`. -/
structure Decimal.Interval where
  value : Nat
  below : Nat
  above : Nat
  denominator : Nat
  closed : Bool
  deriving DecidableEq, Repr

/-- The reals that are nearer to the fraction than to its neighbours. The ends belong to it if its
significand is even. -/
def Decimal.Binary.interval (b : Binary) : Interval :=
  let up := Nat.pow 2 b.exponent.toNat
  let down := Nat.pow 2 (-b.exponent).toNat
  { value := 4 * b.significand * up
    below := if b.least then up else 2 * up
    above := 2 * up
    denominator := 4 * down
    closed := b.significand % 2 == 0 }

/-- The same interval divided by ten to the exponent. -/
def Decimal.Interval.scaled (i : Interval) (e : Int) : Interval :=
  let up := Nat.pow 10 (-e).toNat
  { i with
    value := i.value * up, below := i.below * up, above := i.above * up
    denominator := i.denominator * Nat.pow 10 e.toNat }

/-- Whether a whole number lies in the interval. -/
def Decimal.Interval.holds (i : Interval) (n : Nat) : Bool :=
  let x := n * i.denominator
  if x ≤ i.value then
    let d := i.value - x
    d < i.below || (i.closed && d == i.below)
  else
    let d := x - i.value
    d < i.above || (i.closed && d == i.above)

/-- The whole number in the interval that is nearest to its value, a tie going up. -/
def Decimal.Interval.nearest? (i : Interval) : Option Nat :=
  let low := i.value / i.denominator
  let rest := i.value % i.denominator
  match 0 < low && i.holds low, i.holds (low + 1) with
  | true, true => some (if 2 * rest < i.denominator then low else low + 1)
  | true, false => some low
  | false, true => some (low + 1)
  | false, false => none

/-- The least position at or above the start whose power of ten exceeds the interval's value. -/
def Decimal.position (i : Interval) : Nat → Int → Int
  | 0, p => p
  | steps + 1, p =>
    let s := i.scaled p
    if s.value < s.denominator then p else position i steps (p + 1)

/-- A position below the decimal position of the value and not far from it. -/
def Decimal.startPosition (i : Interval) : Int :=
  ((Nat.log2 i.value : Int) - Nat.log2 i.denominator - 1) * 30103 / 100000 - 1

/-- Tries grids of ever more digits, the first of which ends at the exponent. -/
def Decimal.search (i : Interval) : Nat → Int → Decimal
  | 0, e => ⟨(i.scaled e).value / (i.scaled e).denominator, e⟩
  | more + 1, e =>
    match (i.scaled e).nearest? with
    | some n => ⟨n, e⟩
    | none => search i more (e - 1)

/-- Takes the zeros off the end of a decimal's digits. -/
def Decimal.strip : Nat → Decimal → Decimal
  | 0, d => d
  | steps + 1, d =>
    if d.digits ≠ 0 ∧ d.digits % 10 = 0 then Decimal.strip steps ⟨d.digits / 10, d.exponent + 1⟩
    else d

/-- The shortest decimal of a binary fraction; seventeen digits tell every two apart. -/
def Decimal.Binary.shortest (b : Binary) : Decimal :=
  let i := b.interval
  (search i 17 (position i 8 (startPosition i) - 1)).strip 18

end ReleaseBulletin

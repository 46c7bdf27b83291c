/-!
Numbers of a fixed number of bits.
-/
namespace ReleaseBulletin.Width

/-- How many numbers have so many bits: one more than the greatest of them. -/
def count (bits : Nat) : Nat := Nat.pow 2 bits

/-- The least integer of so many bits, one of which is the sign. -/
def leastSigned (bits : Nat) : Int := -(count (bits - 1) : Int)

/-- The greatest integer of so many bits, one of which is the sign. -/
def greatestSigned (bits : Nat) : Int := (count (bits - 1) : Int) - 1

/-- Whether an integer has so many bits, one of which is the sign. -/
def holdsSigned (bits : Nat) (i : Int) : Bool := leastSigned bits ≤ i && i ≤ greatestSigned bits

end ReleaseBulletin.Width

/-!
Digits of bases up to sixteen, in either case of letters, and the numbers that they write.
-/
namespace ReleaseBulletin.Text.Radix

def hexValue? (c : Char) : Option Nat :=
  if c.isDigit then some (c.toNat - 48)
  else if 'a' ≤ c ∧ c ≤ 'f' then some (c.toNat - 87)
  else if 'A' ≤ c ∧ c ≤ 'F' then some (c.toNat - 55)
  else none

def upperDigit (n : Nat) : Char := if n < 10 then Char.ofNat (48 + n) else Char.ofNat (55 + n)

def digit? (base : Nat) (c : Char) : Option Nat := (hexValue? c).filter (· < base)

def isDigit (base : Nat) (c : Char) : Bool := (digit? base c).isSome

/-- The number that digits write in a base. No digit at all writes zero. -/
def natOf? (base : Nat) (cs : List Char) : Option Nat :=
  (cs.mapM (digit? base)).map (·.foldl (fun n d => n * base + d) 0)

theorem hexValue?_upperDigit : ∀ n < 16, hexValue? (upperDigit n) = some n := by decide

end ReleaseBulletin.Text.Radix

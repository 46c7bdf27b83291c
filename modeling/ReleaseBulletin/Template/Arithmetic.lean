import ReleaseBulletin.Template.Fault
import ReleaseBulletin.Template.Order
import ReleaseBulletin.Width

/-!
Calculations with numbers, and what they do with texts and lists. Integers have 128 bits; an
operation whose result does not fit fails.
-/
namespace ReleaseBulletin.Template.Arithmetic
open Template.Order

/-- An integer of 128 bits. -/
def bounded (i : Int) : Except Fault Value :=
  if Width.holdsSigned 128 i then .ok (.integer i) else .error .invalidOperation

/-- An operation on numbers, given for integers and for fractions. -/
def arithmetic (onWhole : Int → Int → Except Fault Value) (onFractions : Float → Float → Float)
    (v w : Value) : Except Fault Value :=
  match operands? false v w with
  | some (.whole a b) => onWhole a b
  | some (.fractions x y) => .ok (.decimal (onFractions x y))
  | _ => .error .invalidOperation

/-- A sum of numbers, or texts or lists one after the other. -/
def add (v w : Value) : Except Fault Value :=
  match operands? false v w, v, w with
  | some (.texts s t), _, _ => .ok (.text (s ++ t))
  | _, .list vs, .list ws => .ok (.list (vs ++ ws))
  | _, v, w => arithmetic (fun a b => bounded (a + b)) (· + ·) v w

def subtract : Value → Value → Except Fault Value :=
  arithmetic (fun a b => bounded (a - b)) (· - ·)

def repeated? (v count : Value) : Option (Except Fault Value) :=
  let times := (whole? count).bind fun n => if n < 0 then none else some n.toNat
  match v with
  | .list items =>
    some (match times with
      | some n => .ok (.list (List.replicate n items).flatten)
      | none => .error .invalidOperation)
  | v =>
    v.text?.map fun s =>
      match times with
      | some n => .ok (.text (String.join (List.replicate n s)))
      | none => .error .invalidOperation

/-- A product of numbers, or a text or list so many times. -/
def multiply (v w : Value) : Except Fault Value :=
  ((repeated? v w).or (repeated? w v)).getD
    (arithmetic (fun a b => bounded (a * b)) (· * ·) v w)

def divide (v w : Value) : Except Fault Value :=
  match fraction? false v, fraction? false w with
  | some x, some y => .ok (.decimal (x / y))
  | _, _ => .error .invalidOperation

/-- The whole quotient, whose remainder is not negative. -/
def floorDivide : Value → Value → Except Fault Value :=
  arithmetic (fun a b => if b = 0 then .error .invalidOperation else bounded (a / b))
    Decimal.Division.quotient

/-- The remainder; that of integers is not negative. -/
def remainder : Value → Value → Except Fault Value :=
  arithmetic (fun a b => if b = 0 then .error .invalidOperation else bounded (a % b))
    Decimal.Division.remainder

/-- A power of integers, computed only where it can fit. -/
def wholePower (a b : Int) : Except Fault Value :=
  if b < 0 ∨ (Width.count 32 : Int) ≤ b then .error .invalidOperation
  else if a.natAbs ≤ 1 then bounded (if b = 0 then 1 else if b % 2 = 0 then a * a else a)
  else if 127 < b then .error .invalidOperation
  else bounded (Int.pow a b.toNat)

def power : Value → Value → Except Fault Value := arithmetic wholePower Float.pow

def negate : Value → Except Fault Value
  | .integer i => bounded (-i)
  | .decimal x => .ok (.decimal (-x))
  | _ => .error .invalidOperation

end ReleaseBulletin.Template.Arithmetic

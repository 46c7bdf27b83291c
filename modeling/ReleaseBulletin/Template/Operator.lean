import ReleaseBulletin.Template.Access
import ReleaseBulletin.Template.Arithmetic

/-!
The operators of expressions, and when values may be asked, gone through and written.
-/
namespace ReleaseBulletin.Template
open Template.Order

/-- An operator with two operands that are both evaluated. -/
inductive Operator where
  | equal
  | different
  | less
  | atMost
  | greater
  | atLeast
  | contained
  | add
  | subtract
  | multiply
  | divide
  | floorDivide
  | remainder
  | power
  | concatenate
  deriving DecidableEq, Repr

/-- A test of the order of two values. -/
def Operator.compared (test : Ordering → Bool) (v w : Value) : Except Fault Value :=
  .ok (.boolean (test (order v w)))

/-- Applies an operator to operands that may be used. -/
def Operator.compute : Operator → Value → Value → Except Fault Value
  | .equal, v, w => .ok (.boolean (Order.equal v w))
  | .different, v, w => .ok (.boolean (!Order.equal v w))
  | .less, v, w => compared (· == .lt) v w
  | .atMost, v, w => compared (· != .gt) v w
  | .greater, v, w => compared (· == .gt) v w
  | .atLeast, v, w => compared (· != .lt) v w
  | .contained, v, w => (Access.contains w v).map .boolean
  | .add, v, w => Arithmetic.add v w
  | .subtract, v, w => Arithmetic.subtract v w
  | .multiply, v, w => Arithmetic.multiply v w
  | .divide, v, w => Arithmetic.divide v w
  | .floorDivide, v, w => Arithmetic.floorDivide v w
  | .remainder, v, w => Arithmetic.remainder v w
  | .power, v, w => Arithmetic.power v w
  | .concatenate, v, w => .ok (.text (Value.display v ++ Value.display w))

/-- Whether an operator refuses the operands because one is missing. Arithmetic has no result for a
missing operand anyway, and a search may be for one. -/
def Operator.refuses : Operator → Value → Value → Bool
  | .equal, v, w => v.isMissing || w.isMissing
  | .different, v, w => v.isMissing || w.isMissing
  | .less, v, w => v.isMissing || w.isMissing
  | .atMost, v, w => v.isMissing || w.isMissing
  | .greater, v, w => v.isMissing || w.isMissing
  | .atLeast, v, w => v.isMissing || w.isMissing
  | .concatenate, v, w => v.isMissing || w.isMissing
  | .contained, _, w => w.isMissing
  | _, _, _ => false

def Operator.apply (op : Operator) (v w : Value) : Except Fault Value :=
  if op.refuses v w then .error .undefinedValue else op.compute v w

/-- Whether a value counts as true, if it may be asked. -/
def Operator.isTrue (v : Value) : Except Fault Bool :=
  if v.isMissing then .error .undefinedValue else .ok (truth v)

/-- What a loop over a value goes through. -/
def Operator.iterate (v : Value) : Except Fault (List Value) :=
  if v.isMissing then .error .undefinedValue
  else
    match items? v with
    | some items => .ok items
    | none => .error .invalidOperation

def Operator.write (v : Value) : Except Fault String :=
  if v.isMissing then .error .undefinedValue else .ok (Value.display v)

end ReleaseBulletin.Template

import ReleaseBulletin.Template.Access

/-!
The tests that a template can ask of a value.
-/
namespace ReleaseBulletin.Template
open Template.Order

/-- A test of a value, given further values. -/
abbrev Test := Value → List Value → Except Fault Bool

/-- A test without further values. -/
def Test.alone (test : Value → Bool) : Test := fun v args =>
  if args.isEmpty then .ok (test v) else .error .surplusArgument

/-- A test with one further value. -/
def Test.against (test : Value → Value → Except Fault Bool) : Test := fun v args =>
  match args with
  | [w] => test v w
  | [] => .error .missingArgument
  | _ => .error .surplusArgument

/-- The text that a value is taken for. -/
def Test.asText (v : Value) : Except Fault String :=
  if v.isMissing then .error .undefinedValue else .ok (Value.display v)

def Test.ofTexts (test : List Char → List Char → Bool) : Test := against fun v w => do
  let s ← asText v
  let t ← asText w
  return test s.toList t.toList

def Test.ofOrder (test : Ordering → Bool) : Test := against fun v w => .ok (test (order v w))

/-- A test of a whole number; any other value fails it. -/
def Test.ofWhole (test : Int → Bool) : Test := alone fun v => (whole? v).any test

def Test.isMultiple (v w : Value) : Bool :=
  match operands? true v w with
  | some (.whole a b) => b != 0 && a % b == 0
  | some (.fractions x y) => Decimal.Division.remainder x y == 0.0
  | _ => false

/-- Holds of fractions, also of one that equals a whole number. -/
def Test.isDecimal : Value → Bool
  | .decimal _ => true
  | _ => false

def Test.isInteger : Value → Bool
  | .integer _ => true
  | _ => false

def Test.isBoolean : Value → Bool
  | .boolean _ => true
  | _ => false

def Test.isNone : Value → Bool
  | .none => true
  | _ => false

/-- Holds of texts that are marked up already. -/
def Test.isMarkup : Value → Bool
  | .markup _ => true
  | _ => false

/-- Holds of lists and of groups, which are lists with a key. -/
def Test.isSequence : Value → Bool
  | .list _ => true
  | .group _ _ => true
  | _ => false

def Test.isMapping : Value → Bool
  | .map _ => true
  | .loop _ _ _ _ _ => true
  | _ => false

def Test.named? : String → Option Test
  | "undefined" => some (alone Value.isUndefined)
  | "defined" => some (alone fun v => !v.isUndefined)
  | "none" => some (alone isNone)
  | "boolean" => some (alone isBoolean)
  | "true" => some (alone fun v => isBoolean v && truth v)
  | "false" => some (alone fun v => isBoolean v && !truth v)
  | "number" => some (alone fun v => isInteger v || isDecimal v)
  | "integer" => some (alone isInteger)
  | "int" => some (alone isInteger)
  | "float" => some (alone isDecimal)
  | "string" => some (alone fun v => v.text?.isSome)
  | "sequence" => some (alone isSequence)
  | "mapping" => some (alone isMapping)
  | "iterable" => some (alone fun v => !v.isUndefined && !isNone v && (items? v).isSome)
  | "safe" => some (alone isMarkup)
  | "escaped" => some (alone isMarkup)
  | "odd" => some (ofWhole (· % 2 != 0))
  | "even" => some (ofWhole (· % 2 == 0))
  | "divisibleby" => some (against fun v w => .ok (isMultiple v w))
  | "startingwith" => some (ofTexts fun s t => t.isPrefixOf s)
  | "endingwith" => some (ofTexts fun s t => t.isSuffixOf s)
  | "eq" => some (against fun v w => .ok (equal v w))
  | "equalto" => some (against fun v w => .ok (equal v w))
  | "==" => some (against fun v w => .ok (equal v w))
  | "ne" => some (against fun v w => .ok (!equal v w))
  | "!=" => some (against fun v w => .ok (!equal v w))
  | "lt" => some (ofOrder (· == .lt))
  | "lessthan" => some (ofOrder (· == .lt))
  | "<" => some (ofOrder (· == .lt))
  | "le" => some (ofOrder (· != .gt))
  | "<=" => some (ofOrder (· != .gt))
  | "gt" => some (ofOrder (· == .gt))
  | "greaterthan" => some (ofOrder (· == .gt))
  | ">" => some (ofOrder (· == .gt))
  | "ge" => some (ofOrder (· != .lt))
  | ">=" => some (ofOrder (· != .lt))
  | "in" => some (against fun v w => .ok ((Access.contains w v).toOption.getD false))
  | _ => none

end ReleaseBulletin.Template

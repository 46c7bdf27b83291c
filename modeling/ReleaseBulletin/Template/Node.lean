import ReleaseBulletin.Template.Operator

/-!
Templates as trees: expressions and nodes. A line is that of the last word that is read before the
operation can fail, and a fault of the operation names it.
-/
namespace ReleaseBulletin.Template

/-- An expression. Arguments of calls are given in order or by name. -/
inductive Expr where
  | literal (v : Value)
  | variable (name : String)
  | list (items : List Expr)
  | map (members : List (Expr × Expr))
  | member (line : Nat) (base : Expr) (name : String)
  | item (line : Nat) (base key : Expr)
  | slice (line : Nat) (base start stop step : Expr)
  | not (line : Nat) (operand : Expr)
  | negate (line : Nat) (operand : Expr)
  | operation (line : Nat) (op : Operator) (left right : Expr)
  /-- The left operand if it counts as false, otherwise the right one. -/
  | both (line : Nat) (left right : Expr)
  /-- The left operand if it counts as true, otherwise the right one. -/
  | either (line : Nat) (left right : Expr)
  | choice (line : Nat) (condition yes no : Expr)
  | filter (line : Nat) (name : String) (operand : Expr) (arguments : List (Option String × Expr))
  | test (line : Nat) (name : String) (operand : Expr) (arguments : List (Option String × Expr))
  | call (line : Nat) (name : String) (arguments : List (Option String × Expr))
  | callMember (line : Nat) (base : Expr) (name : String) (arguments : List (Option String × Expr))
  | callValue (line : Nat) (callee : Expr) (arguments : List (Option String × Expr))
  deriving Repr, Inhabited

/-- A filter that is applied to what a block writes. -/
structure BlockFilter where
  line : Nat
  name : String
  arguments : List (Option String × Expr)
  deriving Repr

/-- What an assignment gives a value to. -/
inductive Target where
  | name (name : String)
  | each (line : Nat) (targets : List Target)
  | member (line : Nat) (base : Expr) (name : String)
  deriving Repr

/-- A part of a template. -/
inductive Node where
  | text (s : String)
  | print (line : Nat) (e : Expr)
  | branch (line : Nat) (condition : Expr) (yes no : List Node)
  /-- Goes through a value; only the items for which the condition holds count. -/
  | loop (line : Nat) (target : Target) (source : Expr) (condition : Option (Nat × Expr))
    (body otherwise : List Node)
  | scope (bindings : List (Target × Expr)) (body : List Node)
  | assign (target : Target) (e : Expr)
  | capture (target : Target) (filters : List BlockFilter) (body : List Node)
  | filtered (line : Nat) (filters : List BlockFilter) (body : List Node)
  | routine (name : String) (parameters : List (String × Option Expr)) (body : List Node)
  | discard (e : Expr)
  | insertion (line : Nat) (name : Expr) (optional : Bool)
  | inheritance (line : Nat) (name : Expr)
  deriving Repr

end ReleaseBulletin.Template

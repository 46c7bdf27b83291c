import ReleaseBulletin.Decimal.Layout
import ReleaseBulletin.Json.Parser
import ReleaseBulletin.Json.Value

/-!
Writing a tree as JSON text, compact, on one line. What JSON has no form for is written as null.
-/
namespace ReleaseBulletin.Json.Printer
open Document

def integer (i : Int) : List Char :=
  (if i < 0 then ['-'] else []) ++ Nat.toDigits 10 i.natAbs

/-- A binary fraction; the infinite and undefined ones have no form. -/
def decimal (x : Float) : List Char :=
  if x.isFinite then (Decimal.Layout.write Decimal.Layout.compact x).toList else "null".toList

mutual

def tree : Tree → List Char
  | .null => "null".toList
  | .boolean true => "true".toList
  | .boolean false => "false".toList
  | .integer i => integer i
  | .decimal x => decimal x
  | .text s => Quoted.quote s.toList
  | .moment => "null".toList
  | .unreadable => "null".toList
  | .list [] => ['[', ']']
  | .list (t :: rest) => '[' :: tree t ++ items rest
  | .table [] => ['{', '}']
  | .table ((k, t) :: rest) => '{' :: key k ++ tree t ++ members rest

/-- The items after the first one, and the closing bracket. -/
def items : List Tree → List Char
  | [] => [']']
  | t :: rest => ',' :: tree t ++ items rest

/-- The members after the first one, and the closing brace. -/
def members : List (Option String × Tree) → List Char
  | [] => ['}']
  | (k, t) :: rest => ',' :: key k ++ tree t ++ members rest

/-- A member's key with its colon. -/
def key : Option String → List Char
  | none => ['"', '"', ':']
  | some s => Quoted.quote s.toList ++ [':']

end

def print (t : Tree) : String := String.ofList (tree t)

mutual

def ofValue : Value → Tree
  | .null => .null
  | .boolean b => .boolean b
  | .integer i => .integer i
  | .decimal x => .decimal x
  | .text s => .text s
  | .list vs => .list (ofValues vs)
  | .object ms => .table (ofMembers ms)

def ofValues : List Value → List Tree
  | [] => []
  | v :: rest => ofValue v :: ofValues rest

def ofMembers : List (String × Value) → List (Option String × Tree)
  | [] => []
  | (k, v) :: rest => (some k, ofValue v) :: ofMembers rest

end

end ReleaseBulletin.Json.Printer

import ReleaseBulletin.Decimal.Layout
import ReleaseBulletin.Json.Printer
import ReleaseBulletin.Text.Quoted

/-!
The values that templates compute with, and how they are written.
-/
namespace ReleaseBulletin.Template

/-- A value. -/
inductive Value where
  /-- No value. A silent one, which a choice without an alternative gives, may be written. -/
  | undefined (silent : Bool)
  | none
  | boolean (b : Bool)
  | integer (i : Int)
  | decimal (x : Float)
  | text (s : String)
  /-- A text that needs no escaping. -/
  | markup (s : String)
  | list (items : List Value)
  /-- Keys and their values, in order. -/
  | map (members : List (Value × Value))
  /-- Items of a list that have the same key. -/
  | group (key : Value) (items : List Value)
  /-- A namespace, by its place in the store. -/
  | space (place : Nat)
  /-- A step of a loop: the loop's identity, the index from zero, the number of steps, and the items
  before and after. -/
  | loop (identity index length : Nat) (previous following : Value)
  /-- A macro, by its place in the store. -/
  | routine (place : Nat) (name : String)
  /-- A function of the engine. -/
  | function (name : String)
  deriving Repr, Inhabited

def Value.text? : Value → Option String
  | .text s => some s
  | .markup s => some s
  | _ => Option.none

/-- Whether the value is one of the undefined ones that must not be used. -/
def Value.isMissing : Value → Bool
  | .undefined silent => !silent
  | _ => false

def Value.isUndefined : Value → Bool
  | .undefined _ => true
  | _ => false

def Value.integerText (i : Int) : String := String.ofList (Json.Printer.integer i)

def Value.booleanText (b : Bool) : String := if b then "True" else "False"

/-- The written form of a step of a loop. -/
def Value.stepText (index length : Nat) : String :=
  "<loop " ++ integerText index ++ "/" ++ integerText length ++ ">"

def Value.routineText (name : String) : String := "<macro " ++ name ++ ">"

mutual

/-- The written form of a value inside another one, where texts are quoted. -/
def Value.nested : Value → String
  | .undefined _ => "undefined"
  | .none => "None"
  | .boolean b => booleanText b
  | .integer i => integerText i
  | .decimal x => Decimal.Layout.write Decimal.Layout.compact x
  | .text s => Text.Quoted.quote s
  | .markup s => Text.Quoted.quote s
  | .list items => "[" ++ nestedItems items ++ "]"
  | .map members => "\x7b" ++ nestedMembers members ++ "\x7d"
  | .group key items => "[" ++ nested key ++ ", [" ++ nestedItems items ++ "]]"
  | .space _ => "\x7b\x7d"
  | .loop _ index length _ _ => stepText index length
  | .routine _ name => routineText name
  | .function name => name

def Value.nestedItems : List Value → String
  | [] => ""
  | v :: rest =>
    match rest with
    | [] => nested v
    | _ :: _ => nested v ++ ", " ++ nestedItems rest

/-- The written forms of members with commas between them. -/
def Value.nestedMembers : List (Value × Value) → String
  | [] => ""
  | (k, v) :: rest =>
    match rest with
    | [] => nested k ++ ": " ++ nested v
    | _ :: _ => nested k ++ ": " ++ nested v ++ ", " ++ nestedMembers rest

end

/-- The written form of a value: a text stands for itself. -/
def Value.display : Value → String
  | .undefined _ => ""
  | .decimal x => Decimal.Layout.write Decimal.Layout.plain x
  | .text s => s
  | .markup s => s
  | v => nested v

mutual

def Value.ofJson : Json.Value → Value
  | .null => .none
  | .boolean b => .boolean b
  | .integer i => .integer i
  | .decimal x => .decimal x
  | .text s => .text s
  | .list items => .list (ofJsonItems items)
  | .object members => .map (ofJsonMembers members)

def Value.ofJsonItems : List Json.Value → List Value
  | [] => []
  | v :: rest => ofJson v :: ofJsonItems rest

def Value.ofJsonMembers : List (String × Json.Value) → List (Value × Value)
  | [] => []
  | (k, v) :: rest => (.text k, ofJson v) :: ofJsonMembers rest

end

mutual

/-- The value with each namespace in it replaced. -/
def Value.settled (contents : Nat → Value) : Value → Value
  | .list items => .list (settledItems contents items)
  | .map members => .map (settledMembers contents members)
  | .group key items => .group (settled contents key) (settledItems contents items)
  | .space place => contents place
  | v => v

def Value.settledItems (contents : Nat → Value) : List Value → List Value
  | [] => []
  | v :: rest => settled contents v :: settledItems contents rest

def Value.settledMembers (contents : Nat → Value) : List (Value × Value) → List (Value × Value)
  | [] => []
  | (k, v) :: rest => (settled contents k, settled contents v) :: settledMembers contents rest

end

end ReleaseBulletin.Template

import ReleaseBulletin.Document.Tree

/-!
JSON values: the data that a report carries into the release note. The members of an object are in
the order of their keys, each key once.
-/
namespace ReleaseBulletin.Json
open Document

/-- A JSON value. -/
inductive Value where
  | null
  | boolean (b : Bool)
  | integer (i : Int)
  | decimal (x : Float)
  | text (s : String)
  | list (items : List Value)
  | object (members : List (String × Value))
  deriving Repr, Inhabited

def Value.isObject : Value → Bool
  | .object _ => true
  | _ => false

def Value.member? : Value → String → Option Value
  | .object members, key => members.lookup key
  | _, _ => none

/-- Puts a member into its place by key, in place of one with the same key. -/
def Value.insertMember {α : Type} (key : String) (v : α) : List (String × α) → List (String × α)
  | [] => [(key, v)]
  | (k, w) :: rest =>
    if key = k then (key, v) :: rest
    else if key < k then (key, v) :: (k, w) :: rest
    else (k, w) :: insertMember key v rest

/-- Members in the order of their keys; of a repeated key the last member stays. -/
def Value.sortMembers {α : Type} (members : List (String × α)) : List (String × α) :=
  members.foldl (fun sorted m => insertMember m.1 m.2 sorted) []

/-- The value of a tree whose lists and objects nest no deeper than the bound. -/
def Value.ofTree? : Nat → Tree → Option Value
  | _, .null => some .null
  | _, .boolean b => some (.boolean b)
  | _, .integer i => some (.integer i)
  | _, .decimal x => some (.decimal x)
  | _, .text s => some (.text s)
  | depth + 1, .list items => (items.mapM (ofTree? depth)).map .list
  | depth + 1, .table members =>
    (members.mapM fun (m : Option String × Tree) =>
      match m.1, ofTree? depth m.2 with
      | some key, some v => some (key, v)
      | _, _ => none).map fun ms => .object (sortMembers ms)
  | _, _ => none

def Value.maxDepth : Nat := 127

end ReleaseBulletin.Json

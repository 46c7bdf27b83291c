/-!
Documents as they are written: scalars, lists, and tables whose members keep their order and may
repeat a key. Whether a tree stands for a value of some kind is decided where it is read.
-/
namespace ReleaseBulletin.Document

/-- A part of a document. -/
inductive Tree where
  | null
  | boolean (b : Bool)
  | integer (i : Int)
  | decimal (x : Float)
  | text (s : String)
  /-- A date, a time of day or both. -/
  | moment
  | list (items : List Tree)
  /-- Members in document order; a key without a readable text is `none`. -/
  | table (members : List (Option String × Tree))
  /-- A scalar of the right form that stands for no value. -/
  | unreadable
  deriving Repr, Inhabited

/-- The member of a table with the given key, the last one if it is repeated. -/
def Tree.member? (t : Tree) (key : String) : Option Tree :=
  match t with
  | .table members => (members.reverse.find? fun m => m.1 == some key).map Prod.snd
  | _ => none

def Tree.text? : Tree → Option String
  | .text s => some s
  | _ => none

def Tree.boolean? : Tree → Option Bool
  | .boolean b => some b
  | _ => none

/-- The natural number below the bound that a tree writes without fraction or exponent. -/
def Tree.natBelow? (bound : Nat) : Tree → Option Nat
  | .integer (.ofNat n) => if n < bound then some n else none
  | _ => none

def Tree.list? : Tree → Option (List Tree)
  | .list items => some items
  | _ => none

/-- The items of a list, each read in the same way. -/
def Tree.listOf? {α : Type} (read : Tree → Option α) (t : Tree) : Option (List α) :=
  t.list?.bind (·.mapM read)

def Tree.optional? {α : Type} (read : Tree → Option α) : Tree → Option (Option α)
  | .null => some none
  | t => (read t).map some

end ReleaseBulletin.Document

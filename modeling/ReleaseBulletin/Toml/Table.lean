import ReleaseBulletin.Document.Tree

/-!
Tables under construction. A table comes to be by its own header, by the header of a table below it
or by a dotted key, and which of these it was decides what may still be added to it.
-/
namespace ReleaseBulletin.Toml.Table
open Document

/-- How a table came to be. -/
inductive Origin where
  /-- By a header below it. -/
  | implied
  /-- By its own header. -/
  | declared
  /-- By a dotted key. -/
  | dotted
  deriving DecidableEq, Repr

/-- A value, a table, or the tables of a list that headers extend. -/
inductive Node where
  | leaf (value : Tree)
  | table (origin : Origin) (entries : List (String × Node))
  | tables (all : List (List (String × Node)))
  deriving Inhabited

/-- The entries of a table, in the order of their creation. -/
abbrev Entries := List (String × Node)

def replace (key : String) (node : Node) (es : Entries) : Entries :=
  es.map fun e => if e.1 = key then (key, node) else e

/-- Changes the last of several tables. -/
def onLast (f : Entries → Option Entries) : List Entries → Option (List Entries)
  | [] => none
  | [es] => (f es).map fun es => [es]
  | es :: rest => (onLast f rest).map (es :: ·)

/-- Changes the entries of the table that the keys of a header lead to; tables on the way come to
be. -/
def alongHeader : List String → (Entries → Option Entries) → Entries → Option Entries
  | [], f, es => f es
  | key :: path, f, es =>
    match es.lookup key with
    | none => (alongHeader path f []).map fun sub => es ++ [(key, .table .implied sub)]
    | some (.leaf _) => none
    | some (.table origin sub) =>
      (alongHeader path f sub).map fun sub => replace key (.table origin sub) es
    | some (.tables all) =>
      (onLast (alongHeader path f) all).map fun all => replace key (.tables all) es

def addLeaf (key : String) (value : Tree) (es : Entries) : Option Entries :=
  match es.lookup key with
  | none => some (es ++ [(key, .leaf value)])
  | some _ => none

/-- Adds a value under a dotted key. The table that it is added to must be the one the key stands in
or have come to be by a dotted key. -/
def assign : Origin → List String → String → Tree → Entries → Option Entries
  | origin, [], key, value, es => if origin = .implied then none else addLeaf key value es
  | _, k :: path, key, value, es =>
    match es.lookup k with
    | none => (assign .dotted path key value []).map fun sub => es ++ [(k, .table .dotted sub)]
    | some (.leaf _) => none
    | some (.table .declared _) => none
    | some (.table origin sub) =>
      (assign origin path key value sub).map fun sub => replace k (.table origin sub) es
    | some (.tables all) =>
      (onLast (assign .implied path key value) all).map fun all => replace k (.tables all) es

/-- Opens the table of a header. -/
def open? (key : String) (es : Entries) : Option Entries :=
  match es.lookup key with
  | none => some (es ++ [(key, .table .declared [])])
  | some (.table .implied sub) => some (replace key (.table .declared sub) es)
  | some _ => none

/-- Opens one more table of a list. -/
def openItem? (key : String) (es : Entries) : Option Entries :=
  match es.lookup key with
  | none => some (es ++ [(key, .tables [[]])])
  | some (.tables all) => some (replace key (.tables (all ++ [[]])) es)
  | some _ => none

mutual

def Node.tree : Node → Tree
  | .leaf value => value
  | .table _ entries => .table (members entries)
  | .tables all => .list (items all)

/-- The members of a table. -/
def members : List (String × Node) → List (Option String × Tree)
  | [] => []
  | (key, node) :: rest => (some key, node.tree) :: members rest

/-- The tables of a list. -/
def items : List (List (String × Node)) → List Tree
  | [] => []
  | entries :: rest => .table (members entries) :: items rest

end

end ReleaseBulletin.Toml.Table

import ReleaseBulletin.Document.Tree

/-!
Records: trees read as a fixed sequence of named fields. A record is written as a table, where
unknown keys say nothing and a known key stands once, or as a list of its fields in order.
-/
namespace ReleaseBulletin.Document.Record

/-- Whether a record written as a list may have more items than the record has fields. -/
inductive Surplus where
  | refused
  | ignored
  deriving DecidableEq, Repr

/-- The one member with the key: `none` if it is repeated, `some none` if it is absent. -/
def single? (members : List (Option String × Tree)) (key : String) : Option (Option Tree) :=
  match members.filter (·.1 == some key) with
  | [] => some none
  | [m] => some (some m.2)
  | _ => none

/-- The first items of a list, one for each field. -/
def positional (names : List String) (items : List Tree) : List (Option Tree) :=
  (List.range names.length).map fun i => items[i]?

/-- The trees of a record's fields, in the order of the names; absent fields are `none`. -/
def fields? (surplus : Surplus) (names : List String) : Tree → Option (List (Option Tree))
  | .table members =>
    if members.all (·.1.isSome) then names.mapM (single? members) else none
  | .list items =>
    if surplus = .refused ∧ names.length < items.length then none
    else some (positional names items)
  | .moment => some (names.map fun _ => none)
  | _ => none

def required {α : Type} (read : Tree → Option α) : Option Tree → Option α
  | none => none
  | some t => read t

/-- Reads a field that has a value of its own when it is absent. -/
def orElse {α : Type} (absent : α) (read : Tree → Option α) : Option Tree → Option α
  | none => some absent
  | some t => read t

end ReleaseBulletin.Document.Record

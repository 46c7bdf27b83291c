import ReleaseBulletin.Template.Fault
import ReleaseBulletin.Template.Order
import ReleaseBulletin.Text.Affix

/-!
Parts of values: members by name, items by key or index, slices, and dotted paths.
-/
namespace ReleaseBulletin.Template.Access
open Template.Order

/-- What a loop tells about its current step. Loops do not call themselves, so their depth is one.
-/
def stepMember? (index length : Nat) (previous following : Value) : String → Option Value
  | "index" => some (.integer (index + 1))
  | "index0" => some (.integer index)
  | "revindex" => some (.integer (length - index : Nat))
  | "revindex0" => some (.integer (length - index - 1 : Nat))
  | "length" => some (.integer length)
  | "first" => some (.boolean (index == 0))
  | "last" => some (.boolean (index + 1 == length))
  | "depth" => some (.integer 1)
  | "depth0" => some (.integer 0)
  | "previtem" => some previous
  | "nextitem" => some following
  | _ => none

def member? (v : Value) (name : String) : Option Value :=
  match v with
  | .map members => lookup? members (.text name)
  | .group key items =>
    if name = "grouper" then some key
    else if name = "list" then some (.list items)
    else none
  | .loop _ index length previous following => stepMember? index length previous following name
  | _ => none

/-- The place in a sequence that an index stands for; a negative one counts from the end. -/
def place? (length : Nat) (index : Int) : Option Nat :=
  let i := if index < 0 then length + index else index
  if 0 ≤ i ∧ i < length then some i.toNat else none

def item? (v key : Value) : Option Value :=
  match v with
  | .map members => lookup? members key
  | .list items => (whole? key).bind fun i => (place? items.length i).bind fun n => items[n]?
  | .group k items =>
    match key.text? with
    | some name => member? v name
    | none => (whole? key).bind fun i => (place? 2 i).bind fun n => [k, .list items][n]?
  | .loop _ _ _ _ _ => key.text?.bind (member? v)
  | v =>
    v.text?.bind fun s => (whole? key).bind fun i =>
      (place? s.length i).bind fun n => s.toList[n]?.map fun c => .text c.toString

/-- Whether a value is in another one: as a part of a text, an item of a list or a key of a map. -/
def contains (container v : Value) : Except Fault Bool :=
  match container with
  | .undefined _ => .ok false
  | .list items => .ok (items.any (Order.equal · v))
  | .group key items => .ok ([key, .list items].any (Order.equal · v))
  | .map members => .ok (lookup? members v).isSome
  | .routine _ _ => .ok false
  | .function _ => .ok false
  | .loop _ _ _ _ _ => .ok (item? container v).isSome
  | container =>
    match container.text? with
    | some s => .ok (Text.Affix.occursIn (Value.display v).toList s.toList)
    | none => .error .invalidOperation

/-- The value of a part: an absent part of a value is undefined, a part of an undefined value is a
fault. -/
def part (v : Value) : Option Value → Except Fault Value
  | some w => .ok w
  | none => if v.isUndefined then .error .undefinedValue else .ok (.undefined false)

def member (v : Value) (name : String) : Except Fault Value := part v (member? v name)

def item (v key : Value) : Except Fault Value := part v (item? v key)

def index? (step : List Char) : Option Nat :=
  if !step.isEmpty && step.all Char.isDigit then some (Nat.ofDigitChars 10 step 0) else none

/-- Goes from a value along the steps of a path. -/
def follow (v : Value) : List (List Char) → Except Fault Value
  | [] => .ok v
  | step :: rest => do
    let w ← match index? step with
      | some n => item v (.integer n)
      | none => member v (String.ofList step)
    follow w rest

def atPath (v : Value) (path : String) : Except Fault Value :=
  follow v (Text.Affix.split '.' path.toList)

/-- The value at the end of a dotted path, or the other one if there is none. -/
def atPathOr (v : Value) (path : String) (other : Value) : Value :=
  match atPath v path with
  | .ok w => if w.isUndefined then other else w
  | .error _ => other

/-- The bound of a slice brought into the range. -/
def bounded (low high : Int) (i : Int) : Int := max low (min high i)

/-- A bound counted from the start of the sequence. -/
def fromStart (length i : Int) : Int := if i < 0 then i + length else i

/-- The indices of a slice, of which there are no more than the bound. -/
def progression : Nat → Int → Int → Int → List Nat
  | 0, _, _, _ => []
  | more + 1, i, stop, step =>
    if (0 < step ∧ i < stop) ∨ (step < 0 ∧ stop < i) then
      i.toNat :: progression more (i + step) stop step
    else []

/-- The indices that a slice of a sequence takes. -/
def sliceIndices (length : Nat) (start stop : Option Int) (step : Int) : List Nat :=
  let n : Int := length
  if 0 < step then
    let i := (start.map fun i => bounded 0 n (fromStart n i)).getD 0
    let j := (stop.map fun i => bounded 0 n (fromStart n i)).getD n
    progression length i j step
  else
    let i := (start.map fun i => bounded (-1) (n - 1) (fromStart n i)).getD (n - 1)
    let j := (stop.map fun i => bounded (-1) (n - 1) (fromStart n i)).getD (-1)
    progression length i j step

/-- A bound of a slice. -/
def bound : Value → Except Fault (Option Int)
  | .none => .ok none
  | v =>
    match whole? v with
    | some i => .ok (some i)
    | none => .error .invalidOperation

/-- The slice of a list or text; of an absent value it is empty. -/
def slice (v start stop step : Value) : Except Fault Value := do
  let i ← bound start
  let j ← bound stop
  let k := (← bound step).getD 1
  if k = 0 then throw .invalidOperation
  match v with
  | .undefined _ => return .list []
  | .none => return .list []
  | .list items => return .list ((sliceIndices items.length i j k).filterMap fun n => items[n]?)
  | .group key items =>
    return .list ((sliceIndices 2 i j k).filterMap fun n => [key, .list items][n]?)
  | v =>
    match v.text? with
    | some s =>
      return .text (String.ofList ((sliceIndices s.length i j k).filterMap fun n => s.toList[n]?))
    | none => throw .invalidOperation

end ReleaseBulletin.Template.Access

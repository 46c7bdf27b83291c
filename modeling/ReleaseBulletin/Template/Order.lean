import ReleaseBulletin.Decimal.Division
import ReleaseBulletin.Template.Value
import ReleaseBulletin.Width

/-!
Numbers among values, their common forms, and the equality and order of values. Truth values count
as zero and one; numbers of different kinds are compared by what they are worth.
-/
namespace ReleaseBulletin.Template.Order

/-- Two operands in a common form. -/
inductive Operands where
  | whole (a b : Int)
  | fractions (x y : Float)
  | texts (s t : String)

/-- The whole number that a value is, if it is a number or a truth value. -/
def whole? : Value → Option Int
  | .boolean b => some (if b then 1 else 0)
  | .integer i => some i
  | .decimal x => Decimal.Division.whole? x
  | _ => none

/-- The binary fraction for a value. When `exact`, whole numbers that no binary fraction equals have
none. -/
def fraction? (exact : Bool) : Value → Option Float
  | .boolean b => some (if b then 1.0 else 0.0)
  | .integer i => if exact then Decimal.Division.binary? i else some (Float.ofInt i)
  | .decimal x => some x
  | _ => none

/-- The common form of two numbers or two texts. A fraction makes fractions of both numbers. -/
def operands? (exact : Bool) (v w : Value) : Option Operands :=
  match v.text?, w.text? with
  | some s, some t => some (.texts s t)
  | _, _ =>
    match v, w with
    | .decimal x, w => (fraction? exact w).map (.fractions x)
    | v, .decimal y => (fraction? exact v).map (.fractions · y)
    | v, w =>
      match whole? v, whole? w with
      | some a, some b => some (.whole a b)
      | _, _ => none

/-- The place of a kind of values among the kinds. -/
def kindRank : Value → Nat
  | .undefined _ => 0
  | .none => 1
  | .boolean _ => 2
  | .integer _ => 3
  | .decimal _ => 3
  | .text _ => 4
  | .markup _ => 4
  | .list _ => 5
  | .group _ _ => 5
  | .map _ => 6
  | .space _ => 6
  | .loop _ _ _ _ _ => 6
  | .routine _ _ => 7
  | .function _ => 7

/-- The place of a binary fraction among all of them: by value, a negative zero before a positive
one. -/
def fractionRank (x : Float) : Int :=
  let bits := x.toBits.toNat
  if Width.count 63 ≤ bits then -(bits - Width.count 63 : Int) - 1 else bits

/-- The order of texts, by the code points of their characters. -/
def textOrder (s t : String) : Ordering :=
  if s < t then .lt else if s = t then .eq else .gt

/-- The order of values that are not both lists or both maps. -/
def scalarOrder (v w : Value) : Ordering :=
  match operands? true v w with
  | some (.whole a b) => compare a b
  | some (.fractions x y) => compare (fractionRank x) (fractionRank y)
  | some (.texts s t) => textOrder s t
  | none => compare (kindRank v) (kindRank w)

mutual

def order : Value → Value → Ordering
  | .list vs, w =>
    match w with
    | .list ws => orderItems vs ws
    | w => scalarOrder (.list vs) w
  | .map ms, w =>
    match w with
    | .map ns => orderMembers ms ns
    | w => scalarOrder (.map ms) w
  | v, w => scalarOrder v w

/-- The order of lists: by the first items that differ, a shorter list before a longer one. -/
def orderItems : List Value → List Value → Ordering
  | [], [] => .eq
  | [], _ :: _ => .lt
  | _ :: _, [] => .gt
  | v :: vs, w :: ws => (order v w).then (orderItems vs ws)

/-- The order of maps: as lists of keys and values. -/
def orderMembers : List (Value × Value) → List (Value × Value) → Ordering
  | [], [] => .eq
  | [], _ :: _ => .lt
  | _ :: _, [] => .gt
  | (k, v) :: ms, (l, w) :: ns => ((order k l).then (order v w)).then (orderMembers ms ns)

end

def lookup? (members : List (Value × Value)) (key : Value) : Option Value :=
  (members.find? fun m => order m.1 key == .eq).map Prod.snd

/-- Whether two values that are not both lists or both maps are equal. -/
def scalarsEqual (v w : Value) : Bool :=
  match operands? true v w with
  | some (.whole a b) => a == b
  | some (.fractions x y) => x == y
  | some (.texts s t) => s == t
  | none =>
    match v, w with
    | .none, .none => true
    | .undefined _, .undefined _ => true
    | .routine p _, .routine q _ => p == q
    | .function f, .function g => f == g
    | .loop i j _ _ _, .loop k l _ _ _ => i == k && j == l
    | _, _ => false

mutual

def equal : Value → Value → Bool
  | .list vs, w =>
    match w with
    | .list ws => equalItems vs ws
    | .group k ws => match vs with
      | [a, b] => equal a k && equal b (.list ws)
      | _ => false
    | _ => false
  | .group k vs, w =>
    match w with
    | .list [a, b] => equal k a && (match b with
      | .list ws => equalItems vs ws
      | _ => false)
    | .group l ws => equal k l && equalItems vs ws
    | _ => false
  | .map ms, w =>
    match w with
    | .map ns => ms.length == ns.length && equalMembers ms ns
    | _ => false
  | v, w => scalarsEqual v w

def equalItems : List Value → List Value → Bool
  | [], [] => true
  | v :: vs, w :: ws => equal v w && equalItems vs ws
  | _, _ => false

/-- Whether every member has an equal one among the others. -/
def equalMembers : List (Value × Value) → List (Value × Value) → Bool
  | [], _ => true
  | (k, v) :: ms, ns =>
    (match lookup? ns k with
      | some w => equal v w
      | none => false) && equalMembers ms ns

end

/-- Whether a value counts as true: what is empty, zero or absent does not. -/
def truth : Value → Bool
  | .undefined _ => false
  | .none => false
  | .boolean b => b
  | .integer i => i != 0
  | .decimal x => x != 0.0
  | .text s => !s.isEmpty
  | .markup s => !s.isEmpty
  | .list items => !items.isEmpty
  | .map members => !members.isEmpty
  | .group _ _ => true
  | .space _ => true
  | .loop _ _ _ _ _ => true
  | .routine _ _ => true
  | .function _ => true

/-- What a loop over a value goes through: the items of a list, the keys of a map, the characters of
a text; of a value that is absent, nothing. -/
def items? : Value → Option (List Value)
  | .undefined _ => some []
  | .none => some []
  | .text s => some (s.toList.map fun c => .text c.toString)
  | .markup s => some (s.toList.map fun c => .text c.toString)
  | .list items => some items
  | .map members => some (members.map Prod.fst)
  | .group key items => some [key, .list items]
  | _ => none

/-- How many items, members or characters a value has. -/
def length? : Value → Option Nat
  | .text s => some s.length
  | .markup s => some s.length
  | .list items => some items.length
  | .map members => some members.length
  | .group _ _ => some 2
  | _ => none

end ReleaseBulletin.Template.Order

import ReleaseBulletin.Template.Arithmetic
import ReleaseBulletin.Template.Operator
import ReleaseBulletin.Template.Test
import ReleaseBulletin.Template.Token
import ReleaseBulletin.Template.Wording
import ReleaseBulletin.Width

/-!
The filters of templates.
-/
namespace ReleaseBulletin.Template
open Access Template.Order

/-- The arguments of a filter. -/
structure Filter.Arguments where
  positional : List Value
  named : List (String × Value)

abbrev Filter := Value → Filter.Arguments → Except Fault Value

/-- An argument that may be left out. -/
def Filter.given? : Option Value → Option Value
  | some v => if v.isUndefined || Test.isNone v then none else some v
  | none => none

/-- A truth value as an argument. -/
def Filter.flag (d : Bool) (v : Option Value) : Except Fault Bool :=
  match given? v with
  | none => .ok d
  | some (.boolean b) => .ok b
  | some _ => .error .invalidOperation

/-- A text as an argument, if it is given. -/
def Filter.optionalText (v : Option Value) : Except Fault (Option String) :=
  match given? v with
  | none => .ok none
  | some v =>
    match v.text? with
    | some s => .ok (some s)
    | none => .error .invalidOperation

/-- Refuses named arguments other than the given ones. -/
def Filter.onlyNamed (names : List String) (args : Arguments) : Except Fault Unit :=
  if args.named.all fun a => names.contains a.1 then .ok () else .error .surplusArgument

/-- Refuses arguments in order beyond so many. -/
def Filter.atMost (count : Nat) (args : Arguments) : Except Fault Unit :=
  if args.positional.length ≤ count then .ok () else .error .surplusArgument

/-- Refuses arguments in order beyond so many, and all by name: together these would stand for one
more in order, which is of the wrong kind. -/
def Filter.onlyInOrder (count : Nat) (args : Arguments) : Except Fault Unit :=
  if args.named.isEmpty then atMost count args
  else if args.positional.length < count then .error .invalidOperation
  else .error .surplusArgument

/-- A filter with so many arguments in order and none by name. -/
def Filter.inOrder (count : Nat) (f : Value → List Value → Except Fault Value) : Filter :=
  fun v args => do
  onlyInOrder count args
  f v args.positional

/-- A filter without arguments. -/
def Filter.plain (f : Value → Except Fault Value) : Filter := inOrder 0 fun v _ => f v

/-- A filter of the text that a value is taken for. -/
def Filter.ofText (f : List Char → List Char) : Filter := fun v args => do
  let s ← Test.asText v
  onlyInOrder 0 args
  return .text (String.ofList (f s.toList))

/-- The items of a value as a filter takes them: a value without items is the wrong kind of value.
-/
def Filter.itemsOf (v : Value) : Except Fault (List Value) :=
  match Operator.iterate v with
  | .ok vs => .ok vs
  | .error _ => .error .invalidOperation

def Filter.asciiLower (s : String) : String := String.ofList (s.toList.map Char.toLower)

/-- The order of values in sorted lists, where the case of letters need not count. -/
def Filter.sortOrder (caseSensitive : Bool) (v w : Value) : Ordering :=
  match caseSensitive, v.text?, w.text? with
  | false, some s, some t => textOrder (asciiLower s) (asciiLower t)
  | _, _, _ => order v w

/-- Items in ascending order of keys; items with the same key keep their order. -/
def Filter.sortBy {α : Type} (caseSensitive : Bool) (key : α → Value) (items : List α) : List α :=
  items.mergeSort fun a b => sortOrder caseSensitive (key a) (key b) != .gt

/-- The number of characters, items or members. -/
def Filter.count (v : Value) : Except Fault Value :=
  match length? v with
  | some n => .ok (.integer n)
  | none => .error .invalidOperation

/-- The value, or another one if it is undefined, or also if it does not count as true. -/
def Filter.orDefault (v : Value) (args : List Value) : Except Fault Value := do
  let other := (given? args.head?).getD (.text "")
  let lax ← flag false args[1]?
  return if v.isUndefined || (lax && !truth v) then other else v

def Filter.first (v : Value) : Except Fault Value :=
  match v with
  | .undefined _ => .error .invalidOperation
  | .none => .error .invalidOperation
  | v =>
    match items? v with
    | some vs => .ok (vs.head?.getD (.undefined false))
    | none => .error .invalidOperation

def Filter.last (v : Value) : Except Fault Value :=
  if v.text?.isSome || Test.isSequence v then
    .ok (((items? v).getD []).getLast?.getD (.undefined false))
  else .error .invalidOperation

def Filter.reversed (v : Value) : Except Fault Value :=
  match v with
  | .undefined _ => .ok v
  | .none => .ok v
  | v =>
    match v.text?, items? v with
    | some s, _ => .ok (.text (String.ofList s.toList.reverse))
    | none, some vs => .ok (.list vs.reverse)
    | none, none => .error .invalidOperation

/-- The items with a text between them, which is left out as long as nothing is written. -/
def Filter.join (v : Value) (args : List Value) : Except Fault Value :=
  match v with
  | .undefined _ => .ok (.text "")
  | .none => .ok (.text "")
  | v => do
    let separator ← match given? args.head? with
      | none => .ok ""
      | some w => Test.asText w
    let vs ← itemsOf v
    let join (s : String) (w : Value) : String :=
      (if s.isEmpty then s else s ++ separator) ++ Value.display w
    return .text (vs.foldl join "")

def Filter.pairs (v : Value) : Except Fault (List (Value × Value)) :=
  match v with
  | .map members => .ok members
  | _ => .error .invalidOperation

def Filter.ofPairs (members : List (Value × Value)) : Value :=
  .list (members.map fun (k, w) => .list [k, w])

def Filter.dictsort : Filter := fun v args => do
  atMost 0 args
  let members ← pairs v
  let byValue := (args.named.lookup "by").bind Value.text? == some "value"
  let caseSensitive ← flag false (args.named.lookup "case_sensitive")
  let reverse ← flag false (args.named.lookup "reverse")
  onlyNamed ["by", "case_sensitive", "reverse"] args
  let sorted := sortBy caseSensitive (if byValue then Prod.snd else Prod.fst) members
  return ofPairs (if reverse then sorted.reverse else sorted)

/-- What items are sorted by: the value at the end of a path, or the item itself. -/
def Filter.sortKey (path : Option String) (v : Value) : Value :=
  match path with
  | none => v
  | some p => (atPath v p).toOption.getD (.undefined false)

def Filter.sort : Filter := fun v args => do
  atMost 0 args
  let vs ← itemsOf v
  let caseSensitive ← flag false (args.named.lookup "case_sensitive")
  let path ← optionalText (args.named.lookup "attribute")
  let reverse ← flag false (args.named.lookup "reverse")
  onlyNamed ["case_sensitive", "attribute", "reverse"] args
  let sorted := sortBy caseSensitive (sortKey path) vs
  return .list (if reverse then sorted.reverse else sorted)

/-- The key of an item among items of which only one is kept for each key. -/
def Filter.uniqueKey (caseSensitive : Bool) (v : Value) : Value :=
  match caseSensitive, v.text? with
  | false, some s => .text (String.ofList (Text.CaseMap.lower s.toList))
  | _, _ => v

/-- The first items of each key. -/
def Filter.firstOfEach (key : Value → Value) (seen : List Value) : List Value → List Value
  | [] => []
  | v :: vs =>
    let k := key v
    if seen.any (order · k == .eq) then firstOfEach key seen vs
    else v :: firstOfEach key (k :: seen) vs

def Filter.unique : Filter := fun v args => do
  atMost 0 args
  let path ← optionalText (args.named.lookup "attribute")
  let caseSensitive ← flag false (args.named.lookup "case_sensitive")
  onlyNamed ["case_sensitive", "attribute"] args
  let vs ← itemsOf v
  let key (w : Value) : Value := match path with
    | none => w
    | some p => atPathOr w p (.undefined false)
  return .list (firstOfEach (uniqueKey caseSensitive ∘ key) [] vs)

/-- Sorted items in groups of the same key. A group shows the key of its last item. -/
def Filter.grouped (same : Value → Value → Bool) : List (Value × Value) → List (Value × List Value)
  | [] => []
  | (k, v) :: rest =>
    match grouped same rest with
    | [] => [(k, [v])]
    | (l, vs) :: groups =>
      if same k l then (l, v :: vs) :: groups else (k, [v]) :: (l, vs) :: groups

/-- The items in groups by the value at the end of a path. -/
def Filter.groupby : Filter := fun v args => do
  atMost 1 args
  let default := (given? (args.named.lookup "default")).getD (.undefined false)
  let caseSensitive ← flag false (args.named.lookup "case_sensitive")
  let path ← match ← optionalText args.positional.head? with
    | some p => .ok p
    | none =>
      match ← optionalText (args.named.lookup "attribute") with
      | some p => .ok p
      | none => .error .missingArgument
  onlyNamed ["default", "case_sensitive", "attribute"] args
  let vs ← match items? v with
    | some vs => .ok vs
    | none => .error .invalidOperation
  let keyed := vs.map fun w => (atPathOr w path default, w)
  let same (k l : Value) : Bool := sortOrder caseSensitive k l == .eq
  let groups := grouped same (sortBy caseSensitive Prod.fst keyed)
  return .list (groups.map fun (k, ws) => .group k ws)

/-- The test that selects items: the one named by the first of the values, given the others, or
whether the item counts as true. -/
def Filter.selection (args : List Value) : Except Fault (Value → Except Fault Bool) :=
  match given? args.head? with
  | none => .ok fun v => .ok (truth v)
  | some name => do
    match Test.named? (← Test.asText name) with
    | none => throw .unknownTest
    | some test => return fun v => test v args.tail

/-- The items for which a test has the wanted outcome. -/
def Filter.selected (wanted : Bool) : Filter := fun v args => do
  if !args.named.isEmpty then throw .invalidOperation
  let test ← selection args.positional
  let vs ← Operator.iterate v
  return .list (← vs.filterM fun w => return (← test w) == wanted)

/-- The items for which a test of the value at the end of a path has the wanted outcome. -/
def Filter.selectedBy (wanted : Bool) : Filter := fun v args => do
  if !args.named.isEmpty then throw .invalidOperation
  match args.positional with
  | [] => throw .missingArgument
  | path :: rest =>
    let path ← Test.asText path
    let test ← selection rest
    let vs ← Operator.iterate v
    return .list (← vs.filterM fun w => return (← test (← atPath w path)) == wanted)

/-- The parts of the items, or a default for those that have none. -/
def Filter.mapParts (part : Value) : Filter := fun v args => do
  atMost 0 args
  onlyNamed ["attribute", "default"] args
  let default := (args.named.lookup "default").getD (.undefined false)
  let vs ← Operator.iterate v
  let ws ← vs.mapM fun w => do
    let found := match part.text? with
      | some path => atPath w path
      | none => item w part
    match found with
    | .ok w => return if w.isUndefined then default else w
    | .error e => if default.isUndefined then throw e else return default
  return .list ws

/-- The bound of integers of 128 bits that a whole number beyond it becomes. -/
def Filter.clamped (i : Int) : Int := max (Width.leastSigned 128) (min (Width.greatestSigned 128) i)

/-- The whole part of a binary fraction. -/
def Filter.truncate (x : Float) : Int :=
  if x.isNaN then 0
  else if x.isInf then (if x < 0.0 then Width.leastSigned 128 else Width.greatestSigned 128)
  else clamped (Decimal.Division.wholePart x)

def Filter.writtenFraction? (cs : List Char) : Option Float :=
  let (negative, cs) := Text.Digit.signed cs
  let withSign (x : Float) : Float := if negative then -x else x
  let word := String.ofList (cs.map Char.toLower)
  if word = "inf" ∨ word = "infinity" then some (withSign (1.0 / 0.0))
  else if word = "nan" then some (0.0 / 0.0)
  else
    let isMark (c : Char) : Bool := c == 'e' || c == 'E'
    let front := cs.takeWhile (!isMark ·)
    let digits := front.filter (· != '.')
    if digits.isEmpty || !digits.all Char.isDigit || 1 < front.count '.' then none
    else (Token.decimalOf? cs).map withSign

/-- The integer that a text writes, or the whole part of the fraction that it writes. -/
def Filter.writtenInteger (cs : List Char) : Except Fault Value :=
  let (negative, ds) := Text.Digit.signed cs
  let n : Int := Nat.ofDigitChars 10 ds 0
  let i := if negative then -n else n
  if !ds.isEmpty && ds.all Char.isDigit && clamped i == i then .ok (.integer i)
  else
    match writtenFraction? cs with
    | some x => .ok (.integer (truncate x))
    | none => .error .invalidOperation

def Filter.integer (v : Value) : Except Fault Value :=
  match v with
  | .undefined _ => .ok (.integer 0)
  | .none => .ok (.integer 0)
  | .boolean b => .ok (.integer (if b then 1 else 0))
  | .integer i => .ok (.integer i)
  | .decimal x => .ok (.integer (truncate x))
  | v =>
    match v.text? with
    | some s => writtenInteger s.toList
    | none => .error .invalidOperation

def Filter.absolute : Value → Except Fault Value
  | .integer i => Arithmetic.bounded i.natAbs
  | .decimal x => .ok (.decimal x.abs)
  | _ => .error .invalidOperation

def Filter.escape (v : Value) : Value :=
  match v with
  | .markup s => .markup s
  | .undefined _ => .markup (Value.display v)
  | .none => .markup (Value.display v)
  | .boolean _ => .markup (Value.display v)
  | .integer _ => .markup (Value.display v)
  | .decimal _ => .markup (Value.display v)
  | v => .markup (String.ofList ((Value.display v).toList.flatMap Wording.escapeChar))

def Filter.asString (v : Value) : Value := if v.text?.isSome then v else .text (Value.display v)

/-- The text with each occurrence of another one replaced. -/
def Filter.replace (v : Value) (args : List Value) : Except Fault Value :=
  match args with
  | [old, new] => do
    let s ← Test.asText v
    let old ← Test.asText old
    let new ← Test.asText new
    return .text (String.ofList (Wording.replaceAll old.toList new.toList s.toList))
  | _ => .error .missingArgument

/-- The text without characters at its ends: white space, or those of another text. -/
def Filter.trim (v : Value) (args : List Value) : Except Fault Value := do
  let s ← Test.asText v
  match given? args.head? with
  | none => return .text (String.ofList (Text.Blank.trim s.toList))
  | some w =>
    let drop ← Test.asText w
    return .text (String.ofList (Wording.trimChars drop.toList s.toList))

def Filter.indent (v : Value) (args : List Value) : Except Fault Value := do
  let s ← Test.asText v
  let width ← match args.head? with
    | some w => .ok w
    | none => .error .missingArgument
  match whole? width with
  | some (.ofNat width) =>
    let first ← flag false args[1]?
    let blank ← flag false args[2]?
    return .text (String.ofList (Wording.indented width first blank s.toList))
  | _ => throw .invalidOperation

/-- The filter of a name, except for the one that applies another filter to items. -/
def Filter.named? : String → Option Filter
  | "abs" => some (plain absolute)
  | "capitalize" => some (ofText Text.CaseMap.capitalize)
  | "count" => some (plain count)
  | "d" => some (inOrder 2 orDefault)
  | "default" => some (inOrder 2 orDefault)
  | "dictsort" => some dictsort
  | "e" => some (plain fun v => .ok (escape v))
  | "escape" => some (plain fun v => .ok (escape v))
  | "first" => some (plain first)
  | "groupby" => some groupby
  | "indent" => some (inOrder 3 indent)
  | "int" => some (plain integer)
  | "items" => some (plain fun v => (pairs v).map ofPairs)
  | "join" => some (inOrder 1 join)
  | "last" => some (plain last)
  | "length" => some (plain count)
  | "list" => some (plain fun v => (itemsOf v).map .list)
  | "lower" => some (ofText Text.CaseMap.lower)
  | "reject" => some (selected false)
  | "rejectattr" => some (selectedBy false)
  | "replace" => some (inOrder 2 replace)
  | "reverse" => some (plain reversed)
  | "safe" => some (plain fun v => (Test.asText v).map .markup)
  | "select" => some (selected true)
  | "selectattr" => some (selectedBy true)
  | "sort" => some sort
  | "string" => some (plain fun v => .ok (asString v))
  | "title" => some (ofText (Wording.titled true))
  | "trim" => some (inOrder 1 trim)
  | "unique" => some unique
  | "upper" => some (ofText Text.CaseMap.upper)
  | _ => none

/-- The name of the filter that applies another one to items. -/
def Filter.mapName : String := "map"

def Filter.exists? (name : String) : Bool := name == mapName || (named? name).isSome

def Filter.apply (name : String) (v : Value) (named : List (String × Value)) :
    List Value → Except Fault Value
  | [] =>
    if name = mapName then
      match given? (named.lookup "attribute") with
      | some part => mapParts part v ⟨[], named⟩
      | none => .error .invalidOperation
    else
      match named? name with
      | some f => f v ⟨[], named⟩
      | none => .error .unknownFilter
  | a :: args =>
    if name = mapName then
      match given? (named.lookup "attribute"), a.text? with
      | some _, _ => .error .surplusArgument
      | none, none => .error .invalidOperation
      | none, some inner =>
        if exists? inner then do
          let vs ← Operator.iterate v
          return .list (← vs.mapM fun w => apply inner w named args)
        else .error .unknownFilter
    else
      match named? name with
      | some f => f v ⟨a :: args, named⟩
      | none => .error .unknownFilter

end ReleaseBulletin.Template

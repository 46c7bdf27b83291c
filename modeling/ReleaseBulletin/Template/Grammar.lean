import ReleaseBulletin.Template.Node
import ReleaseBulletin.Template.Piece

/-!
Reading expressions. From the loosest to the tightest: a choice, `or`, `and`, `not`, comparisons,
sums, concatenation, products, powers, and operands with their parts, filters and tests. What is
made of literals alone is computed while it is read, unless that fails.
-/
namespace ReleaseBulletin.Template.Grammar
open Access Arithmetic

/-- An expression that was read, the line of its first word, and the line that operations on it
name. -/
structure Part where
  expr : Expr
  first : Nat
  last : Nat

/-- Takes something off the words, if they start with it. -/
abbrev Reader (α : Type) := List Word → Option (α × List Word)

def afterMark? (m : Mark) : List Word → Option (List Word)
  | ⟨.mark n, _⟩ :: rest => if m = n then some rest else none
  | _ => none

def afterName? (s : String) : List Word → Option (List Word)
  | ⟨.name t, _⟩ :: rest => if s = t then some rest else none
  | _ => none

def literal? : Expr → Option Value
  | .literal v => some v
  | _ => none

def operation (op : Operator) (l r : Part) : Part :=
  let computed := match l.expr, r.expr with
    | .literal v, .literal w => (op.apply v w).toOption
    | _, _ => none
  match computed with
  | some v => ⟨.literal v, l.first, l.first⟩
  | none => ⟨.operation r.last op l.expr r.expr, l.first, r.last⟩

/-- A conjunction. Of literals it is a literal. -/
def conjunction (l r : Part) : Part :=
  match l.expr, r.expr with
  | .literal v, .literal w =>
    ⟨.literal (if Order.truth v then w else .boolean false), l.first, l.first⟩
  | e, f => ⟨.both l.last e f, l.first, r.last⟩

/-- A disjunction. Of literals it is a literal. -/
def disjunction (l r : Part) : Part :=
  match l.expr, r.expr with
  | .literal v, .literal w => ⟨.literal (if Order.truth v then v else w), l.first, l.first⟩
  | e, f => ⟨.either l.last e f, l.first, r.last⟩

/-- A denial that starts in the line. -/
def denial (line : Nat) (p : Part) : Part :=
  match p.expr with
  | .literal v => ⟨.literal (.boolean (!Order.truth v)), line, line⟩
  | e => ⟨.not p.last e, line, p.last⟩

/-- A number with the other sign. -/
def negation (line : Nat) (p : Part) : Part :=
  let computed := match p.expr with
    | .literal v => (negate v).toOption
    | _ => none
  match computed with
  | some v => ⟨.literal v, line, line⟩
  | none => ⟨.negate line p.expr, line, p.last⟩

/-- The line after the last of some parts. -/
def lastLine (line : Nat) (ps : List Part) : Nat :=
  match ps.getLast? with
  | some p => p.last
  | none => line

def listOf (line : Nat) (ps : List Part) : Part :=
  match ps.mapM (literal? ·.expr) with
  | some vs => ⟨.literal (.list vs), line, line⟩
  | none => ⟨.list (ps.map Part.expr), line, lastLine line ps⟩

/-- Puts a member into its place by key, in place of one with the same key. -/
def insertMember (key v : Value) : List (Value × Value) → List (Value × Value)
  | [] => [(key, v)]
  | (k, w) :: rest =>
    match Order.order key k with
    | .lt => (key, v) :: (k, w) :: rest
    | .eq => (k, v) :: rest
    | .gt => (k, w) :: insertMember key v rest

/-- A map of members; of a repeated key the last member stays. -/
def mapOfMembers (members : List (Value × Value)) : Value :=
  .map (members.foldl (fun sorted m => insertMember m.1 m.2 sorted) [])

def mapOf (line : Nat) (ps : List (Part × Part)) : Part :=
  let member? : Part × Part → Option (Value × Value) := fun (k, v) => do
    return (← literal? k.expr, ← literal? v.expr)
  match ps.mapM member? with
  | some ms => ⟨.literal (mapOfMembers ms), line, line⟩
  | none => ⟨.map (ps.map fun (k, v) => (k.expr, v.expr)), line, lastLine line (ps.map Prod.snd)⟩

/-- Parts up to a closing mark, with commas between them. A comma may stand before the closing mark.
`first` says that no part came before. -/
def sequence {α : Type} (element : Reader α) (close : Mark) : Nat → Bool → Reader (List α)
  | 0, _, _ => none
  | fuel + 1, first, ws =>
    match afterMark? close ws with
    | some rest => some ([], rest)
    | none => do
      let ws ← if first then some ws else afterMark? .comma ws
      match afterMark? close ws with
      | some rest => if first then none else some ([], rest)
      | none =>
        let (a, ws) ← element ws
        let (more, ws) ← sequence element close fuel false ws
        return (a :: more, ws)

/-- A key, a colon and a value. -/
def member (nested : Reader Part) : Reader (Part × Part) := fun ws => do
  let (k, ws) ← nested ws
  let ws ← afterMark? .colon ws
  let (v, ws) ← nested ws
  return ((k, v), ws)

/-- What stands in parentheses: an expression, or a list when there is a comma. -/
def parenthesized (nested : Reader Part) (line : Nat) : Reader Part := fun ws =>
  match afterMark? .closeParen ws with
  | some rest => some (listOf line [], rest)
  | none => do
    let (p, ws) ← nested ws
    match afterMark? .closeParen ws with
    | some rest => return (p, rest)
    | none =>
      let (more, ws) ← sequence nested .closeParen (ws.length + 1) false ws
      return (listOf line (p :: more), ws)

/-- A name: a constant or a variable. -/
def named (s : String) (line : Nat) : Part :=
  let e : Expr := match s with
    | "true" => .literal (.boolean true)
    | "True" => .literal (.boolean true)
    | "false" => .literal (.boolean false)
    | "False" => .literal (.boolean false)
    | "none" => .literal .none
    | "None" => .literal .none
    | s => .variable s
  ⟨e, line, line⟩

/-- A constant, a variable, or an expression in brackets. -/
def primary (nested : Reader Part) : Reader Part
  | ⟨.name s, line⟩ :: ws => some (named s line, ws)
  | ⟨.text s, line⟩ :: ws => some (⟨.literal (.text s), line, line⟩, ws)
  | ⟨.integer n, line⟩ :: ws => some (⟨.literal (.integer n), line, line⟩, ws)
  | ⟨.decimal x, line⟩ :: ws => some (⟨.literal (.decimal x), line, line⟩, ws)
  | ⟨.mark .openParen, line⟩ :: ws => parenthesized nested line ws
  | ⟨.mark .openBracket, line⟩ :: ws =>
    (sequence nested .closeBracket (ws.length + 1) true ws).map fun (ps, ws) => (listOf line ps, ws)
  | ⟨.mark .openBrace, line⟩ :: ws =>
    (sequence (member nested) .closeBrace (ws.length + 1) true ws).map fun (ps, ws) =>
      (mapOf line ps, ws)
  | _ => none

/-- The minus signs before an operand, from the inside out. -/
def signed (operand : Reader Part) : Nat → Reader Part
  | 0, _ => none
  | fuel + 1, ws =>
    match ws with
    | ⟨.mark .minus, line⟩ :: rest =>
      (signed operand fuel rest).map fun (p, ws) => (negation line p, ws)
    | ws => operand ws

/-- An argument with its name, if it has one. -/
abbrev Argument := Option String × Part

def argument (nested simple : Reader Part) : Reader Argument := fun ws => do
  let (p, ws) ← nested ws
  match p.expr, afterMark? .assign ws with
  | .variable name, some ws =>
    let (p, ws) ← simple ws
    return ((some name, p), ws)
  | _, _ => return ((none, p), ws)

/-- Whether no argument without a name follows one with a name. -/
def inOrder (arguments : List Argument) : Bool :=
  (arguments.dropWhile (·.1.isNone)).all (·.1.isSome)

/-- The arguments of a call after the opening parenthesis. -/
def argumentList (nested simple : Reader Part) : Reader (List Argument) := fun ws =>
  match sequence (argument nested simple) .closeParen (ws.length + 1) true ws with
  | some (as, ws) => if inOrder as then some (as, ws) else none
  | none => none

/-- The arguments of a call, if there is an opening parenthesis. -/
def optionalArguments (nested simple : Reader Part) : Reader (List Argument) := fun ws =>
  match afterMark? .openParen ws with
  | some ws => argumentList nested simple ws
  | none => some ([], ws)

def expressions (arguments : List Argument) : List (Option String × Expr) :=
  arguments.map fun (name, p) => (name, p.expr)

/-- The line after a part and arguments. -/
def lineAfter (line : Nat) (arguments : List Argument) : Nat :=
  lastLine line (arguments.map Prod.snd)

/-- A call of what was read: of a function, of a member or of any value. -/
def callOf (p : Part) (arguments : List Argument) : Part :=
  let line := lineAfter p.last arguments
  let as := expressions arguments
  let e : Expr := match p.expr with
    | .variable name => .call line name as
    | .member _ base name => .callMember line base name as
    | e => .callValue line e as
  ⟨e, p.first, line⟩

/-- A bound of a slice, if there is one before the mark or the closing bracket. -/
def optionalBound (nested : Reader Part) : Reader (Option Part) := fun ws =>
  match ws with
  | ⟨.mark .colon, _⟩ :: _ => some (none, ws)
  | ⟨.mark .closeBracket, _⟩ :: _ => some (none, ws)
  | ws => (nested ws).map fun (p, ws) => (some p, ws)

/-- The expression of a bound; one that is left out is `none`. -/
def boundExpr : Option Part → Expr
  | some p => p.expr
  | none => .literal .none

/-- What stands in brackets after an operand: a key or the bounds of a slice. -/
def subscript (nested : Reader Part) (p : Part) : Reader Part := fun ws => do
  let (start, ws) ← optionalBound nested ws
  match afterMark? .colon ws with
  | none =>
    let key ← start
    let ws ← afterMark? .closeBracket ws
    return (⟨.item key.last p.expr key.expr, p.first, key.last⟩, ws)
  | some ws =>
    let (stop, ws) ← optionalBound nested ws
    let (step, ws) ← match afterMark? .colon ws with
      | none => some (none, ws)
      | some ws => optionalBound nested ws
    let ws ← afterMark? .closeBracket ws
    let line := lastLine p.last ([start, stop, step].filterMap id)
    let e : Expr := .slice line p.expr (boundExpr start) (boundExpr stop) (boundExpr step)
    return (⟨e, p.first, line⟩, ws)

/-- An operand with its parts and calls. -/
def postfixed (nested simple : Reader Part) : Nat → Part → Reader Part
  | 0, _, _ => none
  | fuel + 1, p, ws =>
    match ws with
    | ⟨.mark .dot, _⟩ :: ⟨.name s, _⟩ :: ws =>
      postfixed nested simple fuel ⟨.member p.last p.expr s, p.first, p.last⟩ ws
    | ⟨.mark .dot, _⟩ :: ⟨.integer n, line⟩ :: ws =>
      postfixed nested simple fuel ⟨.item line p.expr (.literal (.integer n)), p.first, line⟩ ws
    | ⟨.mark .dot, _⟩ :: _ => none
    | ⟨.mark .openBracket, _⟩ :: ws => do
      let (p, ws) ← subscript nested p ws
      postfixed nested simple fuel p ws
    | ⟨.mark .openParen, _⟩ :: ws => do
      let (as, ws) ← argumentList nested simple ws
      postfixed nested simple fuel (callOf p as) ws
    | ws => some (p, ws)

/-- An operand with signs before it, and parts and calls after it. -/
def operand (inside nested simple : Reader Part) : Reader Part := fun ws => do
  let (p, ws) ← signed (primary inside) (ws.length + 1) ws
  postfixed nested simple (ws.length + 1) p ws

def startsArgument : List Word → Bool
  | ⟨.name s, _⟩ :: _ => !(["and", "or", "else", "is"].contains s)
  | ⟨.text _, _⟩ :: _ => true
  | ⟨.integer _, _⟩ :: _ => true
  | ⟨.decimal _, _⟩ :: _ => true
  | ⟨.mark .minus, _⟩ :: _ => true
  | ⟨.mark .openBracket, _⟩ :: _ => true
  | ⟨.mark .openBrace, _⟩ :: _ => true
  | _ => false

/-- The arguments of a test: in parentheses, or one operand. -/
def testArguments (inside nested simple : Reader Part) : Reader (List Argument) := fun ws =>
  match afterMark? .openParen ws with
  | some ws => argumentList nested simple ws
  | none =>
    if startsArgument ws then (operand inside nested simple ws).map fun (p, ws) => ([(none, p)], ws)
    else some ([], ws)

/-- An operand's filters and tests, each applied to the result of the one before. -/
def filtered (inside nested simple : Reader Part) : Nat → Part → Reader Part
  | 0, _, _ => none
  | fuel + 1, p, ws =>
    match ws with
    | ⟨.mark .bar, _⟩ :: ws =>
      match ws with
      | ⟨.name s, _⟩ :: ws => do
        let (as, ws) ← optionalArguments nested simple ws
        let line := lineAfter p.last as
        let e : Expr := .filter line s p.expr (expressions as)
        filtered inside nested simple fuel ⟨e, p.first, line⟩ ws
      | _ => none
    | ⟨.name "is", _⟩ :: ws =>
      let (negated, ws) := match afterName? "not" ws with
        | some ws => (true, ws)
        | none => (false, ws)
      match ws with
      | ⟨.name s, _⟩ :: ws => do
        let (as, ws) ← testArguments inside nested simple ws
        let line := lineAfter p.last as
        let e : Expr := .test line s p.expr (expressions as)
        filtered inside nested simple fuel ⟨if negated then .not line e else e, p.first, line⟩ ws
      | _ => none
    | ws => some (p, ws)

/-- An operand with its filters and tests. -/
def filteredOperand (inside nested simple : Reader Part) : Reader Part := fun ws => do
  let (p, ws) ← operand inside nested simple ws
  filtered inside nested simple (ws.length + 1) p ws

/-- Parts joined by operators of one strength, from left to right. -/
def chain (part : Reader Part) (join? : Token → Option (Part → Part → Part)) :
    Nat → Part → Reader Part
  | 0, _, _ => none
  | fuel + 1, p, ws =>
    match ws with
    | ⟨t, _⟩ :: rest =>
      match join? t with
      | some join => do
        let (q, ws) ← part rest
        chain part join? fuel (join p q) ws
      | none => some (p, ws)
    | [] => some (p, [])

/-- A chain from its first part on. -/
def chained (part : Reader Part) (join? : Token → Option (Part → Part → Part)) : Reader Part :=
  fun ws => do
  let (p, ws) ← part ws
  chain part join? (ws.length + 1) p ws

/-- The operators of a strength, as marks. -/
def markJoin (table : List (Mark × Operator)) : Token → Option (Part → Part → Part)
  | .mark m => (table.lookup m).map operation
  | _ => none

/-- The operator that binds most tightly. -/
def powers : List (Mark × Operator) := [(.power, .power)]

/-- The operators of products and quotients. -/
def products : List (Mark × Operator) :=
  [(.times, .multiply), (.divide, .divide), (.floorDivide, .floorDivide), (.remainder, .remainder)]

/-- The operator that joins texts. -/
def concatenations : List (Mark × Operator) := [(.concatenate, .concatenate)]

/-- The operators of sums and differences. -/
def sums : List (Mark × Operator) := [(.plus, .add), (.minus, .subtract)]

/-- The operators that compare. -/
def comparisons : List (Mark × Operator) :=
  [(.equal, .equal), (.different, .different), (.less, .less), (.atMost, .atMost),
   (.greater, .greater), (.atLeast, .atLeast)]

/-- A comparison at the start of the words: how it joins the parts around it. -/
def comparison? : List Word → Option ((Part → Part → Part) × List Word)
  | ⟨.mark m, _⟩ :: ws => (comparisons.lookup m).map fun op => (operation op, ws)
  | ⟨.name "in", _⟩ :: ws => some (operation .contained, ws)
  | ⟨.name "not", _⟩ :: ws =>
    (afterName? "in" ws).map fun ws =>
      (fun p q => let r := operation .contained p q; denial r.first r, ws)
  | _ => none

/-- Comparisons, from left to right. A `not` that no `in` follows cannot stand here. -/
def compared (part : Reader Part) : Nat → Part → Reader Part
  | 0, _, _ => none
  | fuel + 1, p, ws =>
    match comparison? ws with
    | some (join, rest) => do
      let (q, ws) ← part rest
      compared part fuel (join p q) ws
    | none => if (afterName? "not" ws).isSome then none else some (p, ws)

/-- The words `not` before a comparison, from the inside out. -/
def denied (part : Reader Part) : Nat → Reader Part
  | 0, _ => none
  | fuel + 1, ws =>
    match ws with
    | ⟨.name "not", line⟩ :: rest => (denied part fuel rest).map fun (p, ws) => (denial line p, ws)
    | ws => part ws

/-- The join of a word. -/
def wordJoin (s : String) (join : Part → Part → Part) : Token → Option (Part → Part → Part)
  | .name t => if s = t then some join else none
  | _ => none

/-- An expression without a choice at its top, given how to read those in brackets, in arguments and
in named arguments. -/
def withoutChoice (inside nested simple : Reader Part) : Reader Part :=
  let power := chained (filteredOperand inside nested simple) (markJoin powers)
  let product := chained power (markJoin products)
  let concatenation := chained product (markJoin concatenations)
  let sum := chained concatenation (markJoin sums)
  let comparison : Reader Part := fun ws => do
    let (p, ws) ← sum ws
    compared sum (ws.length + 1) p ws
  let denial : Reader Part := fun ws => denied comparison (ws.length + 1) ws
  let conjunctions := chained denial (wordJoin "and" conjunction)
  chained conjunctions (wordJoin "or" disjunction)

/-- The choices after an expression. A choice without an alternative gives no value otherwise. -/
def choices (part : Reader Part) : Nat → Part → Reader Part
  | 0, _, _ => none
  | fuel + 1, p, ws =>
    match afterName? "if" ws with
    | none => some (p, ws)
    | some ws => do
      let (c, ws) ← part ws
      match afterName? "else" ws with
      | none =>
        let e : Expr := .choice c.last c.expr p.expr (.literal (.undefined true))
        choices part fuel ⟨e, p.first, p.last⟩ ws
      | some ws =>
        let (q, ws) ← part ws
        let (q, ws) ← choices part fuel q ws
        choices part fuel ⟨.choice c.last c.expr p.expr q.expr, p.first, q.last⟩ ws

/-- An expression, with room for so many levels of brackets and operands in it. Brackets around an
operand take two levels, those after an operand one. -/
def expression (withChoice : Bool) : Nat → Reader Part
  | 0, _ => none
  | 1, _ => none
  | room + 2, ws =>
    let part := withoutChoice (expression true room) (expression true (room + 1))
      (expression false (room + 1))
    if withChoice then do
      let (p, ws) ← part ws
      choices part (ws.length + 1) p ws
    else part ws

end ReleaseBulletin.Template.Grammar

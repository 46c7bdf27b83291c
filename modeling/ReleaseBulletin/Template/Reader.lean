import ReleaseBulletin.Template.Grammar

/-!
Reading templates: pieces are put together to nodes, blocks with their bodies.
-/
namespace ReleaseBulletin.Template.Reader
open Grammar

def reservedNames : List String :=
  ["true", "True", "false", "False", "none", "None", "loop", "self"]

/-- A name that is given a value. -/
def ownName : Grammar.Reader String
  | ⟨.name s, _⟩ :: ws => if reservedNames.contains s then none else some (s, ws)
  | _ => none

/-- The steps after a name that lead to a member of it. -/
def memberTarget : Nat → Nat → Expr → String → Grammar.Reader Target
  | 0, _, _, _, _ => none
  | fuel + 1, line, base, name, ws =>
    match ws with
    | ⟨.mark .dot, _⟩ :: ⟨.name s, _⟩ :: ws => memberTarget fuel line (.member line base name) s ws
    | ⟨.mark .dot, _⟩ :: _ => none
    | ws => some (.member line base name, ws)

/-- A name, or a member of it when `dotted`. -/
def simpleTarget (dotted : Bool) : Grammar.Reader Target := fun ws => do
  let line := (ws.head?.map Word.line).getD 0
  let (name, ws) ← ownName ws
  match ws with
  | ⟨.mark .dot, _⟩ :: ⟨.name s, _⟩ :: rest =>
    if dotted then memberTarget (rest.length + 1) line (.variable name) s rest
    else some (.name name, ws)
  | ws => some (.name name, ws)

def endsTargets : List Word → Bool
  | [] => true
  | ⟨.mark .closeParen, _⟩ :: _ => true
  | ⟨.name "in", _⟩ :: _ => true
  | _ => false

mutual

/-- One target, or several in parentheses. -/
def target (dotted : Bool) : Nat → Grammar.Reader Target
  | 0, _ => none
  | fuel + 1, ws =>
    match afterMark? .openParen ws with
    | none => simpleTarget dotted ws
    | some ws => do
      let (t, ws) ← targets dotted fuel ws
      let ws ← afterMark? .closeParen ws
      return (t, ws)

/-- The targets after a first one and a comma. -/
def moreTargets (dotted : Bool) : Nat → Grammar.Reader (List Target)
  | 0, _ => none
  | fuel + 1, ws =>
    if endsTargets ws then some ([], ws)
    else do
      let (t, ws) ← target dotted fuel ws
      match afterMark? .comma ws with
      | none => return ([t], ws)
      | some ws =>
        let (more, ws) ← moreTargets dotted fuel ws
        return (t :: more, ws)

/-- One target, or several with commas. -/
def targets (dotted : Bool) : Nat → Grammar.Reader Target
  | 0, _ => none
  | fuel + 1, ws =>
    let line := (ws.head?.map Word.line).getD 0
    if endsTargets ws then some (.each line [], ws)
    else do
      let (t, ws) ← target dotted fuel ws
      match afterMark? .comma ws with
      | none => return (t, ws)
      | some ws =>
        let (more, ws) ← moreTargets dotted fuel ws
        return (.each line (t :: more), ws)

end

/-- The targets of an assignment. Two units of fuel for each word are enough. -/
def assignment (dotted : Bool) : Grammar.Reader Target := fun ws =>
  targets dotted (2 * ws.length + 2) ws

/-- A part that the words hold to the end. -/
def whole {α : Type} (read : Grammar.Reader α) (ws : List Word) : Option α :=
  match read ws with
  | some (a, []) => some a
  | _ => none

/-- Filters for what a block writes, up to the end of the words. -/
def blockFilters (room : Nat) : Nat → Nat → List Word → Option (List BlockFilter)
  | 0, _, _ => none
  | fuel + 1, line, ws =>
    match ws with
    | ⟨.name s, own⟩ :: ws => do
      let (as, ws) ← optionalArguments (expression true room) (expression false room) ws
      let line := lineAfter (max line own) as
      let f : BlockFilter := ⟨line, s, expressions as⟩
      match ws with
      | [] => return [f]
      | ws =>
        let ws ← afterMark? .bar ws
        return f :: (← blockFilters room fuel line ws)
    | _ => none

def parameter (room : Nat) : Grammar.Reader (String × Option Expr) := fun ws => do
  let (name, ws) ← ownName ws
  match afterMark? .assign ws with
  | none => return ((name, none), ws)
  | some ws =>
    let (p, ws) ← expression true room ws
    return ((name, some p.expr), ws)

def defaultsLast (parameters : List (String × Option Expr)) : Bool :=
  (parameters.dropWhile (·.2.isNone)).all (·.2.isSome)

def routineHead (room : Nat) (ws : List Word) : Option (String × List (String × Option Expr)) :=
  match ws with
  | ⟨.name s, _⟩ :: ws => do
    let ws ← afterMark? .openParen ws
    let ps ← whole (sequence (parameter room) .closeParen (ws.length + 1) true) ws
    if defaultsLast ps then return (s, ps) else none
  | _ => none

def bindings (room : Nat) : Nat → Bool → List Word → Option (List (Target × Expr))
  | 0, _, _ => none
  | fuel + 1, first, ws =>
    match ws with
    | [] => some []
    | ws => do
      let ws ← if first then some ws else afterMark? .comma ws
      let (t, ws) ← match afterMark? .openParen ws with
        | none => simpleTarget false ws
        | some ws =>
          match assignment false ws with
          | none => none
          | some (t, ws) => (afterMark? .closeParen ws).map fun ws => (t, ws)
      let ws ← afterMark? .assign ws
      let (p, ws) ← expression true room ws
      return (t, p.expr) :: (← bindings room fuel false ws)

/-- Words on the context of an insertion, which say nothing. -/
def afterContext? (ws : List Word) : Option (List Word) :=
  match afterName? "with" ws, afterName? "without" ws with
  | some ws, _ => afterName? "context" ws
  | _, some ws => afterName? "context" ws
  | _, _ => some ws

def insertion (room : Nat) (ws : List Word) : Option Node := do
  let (p, ws) ← expression true room ws
  let ws ← afterContext? ws
  match afterName? "ignore" ws with
  | none => if ws.isEmpty then return .insertion p.last p.expr false else none
  | some ws =>
    let ws ← afterName? "missing" ws
    let ws ← afterContext? ws
    if ws.isEmpty then return .insertion p.last p.expr true else none

/-- The head of a loop: targets, source and condition. -/
def loopHead (room : Nat) (ws : List Word) : Option (Target × Part × Option Part) := do
  let (t, ws) ← assignment false ws
  let ws ← afterName? "in" ws
  let (source, ws) ← expression false (room + 1) ws
  match afterName? "if" ws with
  | none => if ws.isEmpty then return (t, source, none) else none
  | some ws =>
    let p ← whole (expression true room) ws
    return (t, source, some p)

def isCall : Expr → Bool
  | .call _ _ _ => true
  | .callMember _ _ _ _ => true
  | .callValue _ _ _ => true
  | _ => false

/-- The beginning of an assignment: its targets, whether they are in parentheses, and what follows.
-/
def assigned (ws : List Word) : Option (Target × Bool × List Word) :=
  match afterMark? .openParen ws with
  | none => (assignment true ws).map fun (t, ws) => (t, false, ws)
  | some inner =>
    match assignment true inner with
    | none => none
    | some (t, ws) => (afterMark? .closeParen ws).map fun ws => (t, true, ws)

/-- The nodes up to the end of a block, with the word that ends it. -/
structure Body where
  nodes : List Node
  ending : Option (String × List Word)
  rest : List Piece

/-- A node in front of others. -/
def Body.cons (n : Node) (b : Body) : Body := { b with nodes := n :: b.nodes }

mutual

/-- The nodes up to a statement that starts with one of the closing words. -/
def nodes : Nat → List String → Nat → List Piece → Option Body
  | 0, _, _, _ => none
  | fuel + 1, closing, room, ps =>
    match ps with
    | [] => some ⟨[], none, []⟩
    | .text s :: ps => (nodes fuel closing room ps).map (.cons (.text s))
    | .print _ ws :: ps => do
      let p ← whole (expression true room) ws
      (nodes fuel closing room ps).map (.cons (.print p.last p.expr))
    | .statement _ (⟨.name s, line⟩ :: ws) :: ps =>
      if closing.contains s then some ⟨[], some (s, ws), ps⟩
      else if room = 0 then none
      else do
        let (n, ps) ← statement fuel (room - 1) line s ws ps
        (nodes fuel closing room ps).map (.cons n)
    | _ => none

def block : Nat → String → Nat → List Piece → Option (List Node × List Piece)
  | 0, _, _, _ => none
  | fuel + 1, ending, room, ps =>
    match nodes fuel [ending] room ps with
    | some ⟨ns, some (_, []), ps⟩ => some (ns, ps)
    | _ => none

def branch : Nat → Nat → List Word → List Piece → Option (Node × List Piece)
  | 0, _, _, _ => none
  | fuel + 1, room, ws, ps => do
    let c ← whole (expression false (room + 1)) ws
    match nodes fuel ["endif", "else", "elif"] room ps with
    | some ⟨yes, some ("endif", []), ps⟩ => return (.branch c.last c.expr yes [], ps)
    | some ⟨yes, some ("else", []), ps⟩ =>
      let (no, ps) ← block fuel "endif" room ps
      return (.branch c.last c.expr yes no, ps)
    | some ⟨yes, some ("elif", ws), ps⟩ =>
      let (no, ps) ← branch fuel room ws ps
      return (.branch c.last c.expr yes [no], ps)
    | _ => none

def statement : Nat → Nat → Nat → String → List Word → List Piece → Option (Node × List Piece)
  | 0, _, _, _, _, _ => none
  | fuel + 1, room, line, s, ws, ps =>
    match s with
    | "if" => branch fuel room ws ps
    | "for" => do
      let (t, source, condition) ← loopHead room ws
      let condition := condition.map fun p => (p.last, p.expr)
      match nodes fuel ["endfor", "else"] room ps with
      | some ⟨body, some ("endfor", []), ps⟩ =>
        return (.loop source.last t source.expr condition body [], ps)
      | some ⟨body, some ("else", []), ps⟩ =>
        let (otherwise, ps) ← block fuel "endfor" room ps
        return (.loop source.last t source.expr condition body otherwise, ps)
      | _ => none
    | "with" => do
      let bs ← bindings room (ws.length + 1) true ws
      let (body, ps) ← block fuel "endwith" room ps
      return (.scope bs body, ps)
    | "set" => do
      let (t, inParens, ws) ← assigned ws
      match inParens, ws, afterMark? .bar ws with
      | false, [], _ =>
        let (body, ps) ← block fuel "endset" room ps
        return (.capture t [] body, ps)
      | false, _, some ws =>
        let fs ← blockFilters room (ws.length + 1) 0 ws
        let (body, ps) ← block fuel "endset" room ps
        return (.capture t fs body, ps)
      | _, ws, _ =>
        let ws ← afterMark? .assign ws
        let p ← whole (expression true room) ws
        return (.assign t p.expr, ps)
    | "filter" => do
      let fs ← blockFilters room (ws.length + 1) 0 ws
      let (body, ps) ← block fuel "endfilter" room ps
      return (.filtered ((fs.getLast?.map BlockFilter.line).getD line) fs body, ps)
    | "macro" => do
      let (name, parameters) ← routineHead room ws
      let (body, ps) ← block fuel "endmacro" room ps
      return (.routine name parameters body, ps)
    | "do" => do
      let p ← whole (expression true room) ws
      if isCall p.expr then return (.discard p.expr, ps) else none
    | "include" => (insertion room ws).map fun n => (n, ps)
    | "extends" => (whole (expression true room) ws).map fun p => (.inheritance line p.expr, ps)
    | _ => none

end

def nestingLimit : Nat := 150

/-- The nodes of a template. Three units of fuel for each piece are enough. -/
def ofTemplate? (source : String) : Option (List Node) := do
  let ps ← Piece.ofTemplate? source
  match nodes (3 * ps.length + 3) [] nestingLimit ps with
  | some ⟨ns, none, []⟩ => return ns
  | _ => none

end ReleaseBulletin.Template.Reader

import ReleaseBulletin.Template.Filter
import ReleaseBulletin.Template.Grammar
import ReleaseBulletin.Template.Reader
import ReleaseBulletin.Template.Scope

/-!
Rendering templates. Expressions and nodes are evaluated along their structure; only the calls of
macros, which may call themselves, are bounded by a number. The first fault ends the rendering, and
nothing is written.
-/
namespace ReleaseBulletin.Template.Evaluator
open Access Scope

/-- A fault and the line of the operation that failed. -/
structure Trouble where
  fault : Fault
  line : Nat
  deriving DecidableEq, Repr

abbrev Run (α : Type) := StateT State (Except Trouble) α

/-- A result that may be a fault of the line. -/
def located {α : Type} (line : Nat) (r : Except Fault α) : Run α := fun s =>
  match r with
  | .ok a => .ok (a, s)
  | .error fault => .error ⟨fault, line⟩

/-- A fault of the line. -/
def trouble {α : Type} (line : Nat) (fault : Fault) : Run α := located line (.error fault)

/-- The value with what its namespaces hold. -/
def settle (v : Value) : Run Value := fun s => .ok (s.settle v, s)

/-- The value itself, or what it holds if it is a namespace. -/
def opened (v : Value) : Run Value := fun s => .ok (s.opened v, s)

def variableValue (name : String) : Run Value := fun s =>
  .ok ((s.lookup? name).getD (.undefined false), s)

/-- Runs in a new frame. -/
def within {α : Type} (line : Nat) (f : Frame) (run : Run α) : Run α := fun s =>
  match s.enter f with
  | .error fault => .error ⟨fault, line⟩
  | .ok s =>
    match run s with
    | .ok (a, s) => .ok (a, s.leave)
    | .error t => .error t

/-- The arguments of a call: those in order, and those by name. -/
abbrev Arguments := List Value × List (String × Value)

def mapOfNamed (named : List (String × Value)) : List (Value × Value) :=
  named.map fun (k, v) => (.text k, v)

def rangeLimit : Nat := 10000

def range (args : List Value) : Except Fault Value := do
  let is ← args.mapM fun v =>
    match Order.whole? v with
    | some i => Except.ok i
    | none => .error .invalidOperation
  let (start, stop, step) ← match is with
    | [stop] => Except.ok ((0 : Int), stop, (1 : Int))
    | [start, stop] => .ok (start, stop, 1)
    | [start, stop, step] => .ok (start, stop, step)
    | [] => .error .missingArgument
    | _ => .error .surplusArgument
  if step = 0 then throw .invalidOperation
  let distance := if 0 < step then stop - start else start - stop
  let count := ((distance + step.natAbs - 1) / step.natAbs).toNat
  if rangeLimit < count then throw .invalidOperation
  return .list ((List.range count).map fun (k : Nat) => .integer (start + k * step))

/-- A map of the members of another one and named values. -/
def dict (args : Arguments) : Except Fault Value := do
  let members ← match args.1 with
    | [] => Except.ok []
    | [.undefined _] => .ok []
    | [.map members] => .ok members
    | [_] => .error .invalidOperation
    | _ => .error .surplusArgument
  return Grammar.mapOfMembers (members ++ mapOfNamed args.2)

/-- The members that a new namespace holds. -/
def spaceMembers (args : Arguments) : Except Fault (List (Value × Value)) :=
  match args with
  | ([], named) => .ok (mapOfNamed named)
  | ([.map members], []) => .ok members
  | _ => .error .invalidOperation

def callFunction (line : Nat) (name : String) (args : Arguments) : Run Value :=
  match name with
  | "range" => located line (if args.2.isEmpty then range args.1 else .error .invalidOperation)
  | "dict" => located line (dict args)
  | "namespace" => do
    let members ← located line (spaceMembers args)
    modifyGet fun s => (.space s.spaces.length, { s with spaces := s.spaces ++ [members] })
  | _ => trouble line .unknownFunction

/-- How macros are called: from a line, by their place in the store. -/
abbrev Invoke := Nat → Nat → Arguments → Run Value

def callValue (invoke : Invoke) (line : Nat) (callee : Value) (args : Arguments) : Run Value :=
  match callee with
  | .routine place _ => invoke line place args
  | .function name => callFunction line name args
  | _ => trouble line .invalidOperation

def callNamed (invoke : Invoke) (line : Nat) (name : String) (args : Arguments) : Run Value := do
  if name = "super" ∨ name = "loop" then trouble line .invalidOperation
  else
    match (← get).lookup? name with
    | none => trouble line .unknownFunction
    | some v => callValue invoke line v args

/-- Whether a loop is asked about other values than the last time. -/
def changed (identity : Nat) (vs : List Value) : Run Value := do
  let s ← get
  match s.asked.lookup identity with
  | some ws => if Order.equalItems vs ws then return .boolean false
  | none => pure ()
  set { s with asked := (identity, vs) :: s.asked }
  return .boolean true

def callMember (invoke : Invoke) (line : Nat) (base : Value) (name : String) (args : Arguments) :
    Run Value := do
  let base ← opened base
  match base with
  | .loop identity index _ _ _ =>
    if name = "cycle" then return (args.1[index % args.1.length]?).getD (.undefined false)
    else if name = "changed" then changed identity (← args.1.mapM settle)
    else trouble line .unknownMethod
  | base =>
    match member? base name with
    | some v => callValue invoke line v args
    | none => trouble line .unknownMethod

/-- The values of named arguments: in order of the names, of a repeated name the last one. -/
def gather (args : List (Option String × Value)) : Arguments :=
  (args.filterMap fun (n, v) => if n.isNone then some v else none,
   Json.Value.sortMembers (args.filterMap fun (n, v) => n.map fun n => (n, v)))

def applyFilter (line : Nat) (name : String) (v : Value) (args : Arguments) : Run Value := do
  let v ← settle v
  let positional ← args.1.mapM settle
  let named ← args.2.mapM fun (n, w) => return (n, ← settle w)
  located line (Filter.apply name v named positional)

def applyTest (line : Nat) (name : String) (v : Value) (args : Arguments) : Run Value := do
  let v ← settle v
  let positional ← args.1.mapM settle
  match Test.named? name with
  | none => trouble line .unknownTest
  | some test =>
    if args.2.isEmpty then return .boolean (← located line (test v positional))
    else trouble line .surplusArgument

section

variable (invoke : Invoke)

mutual

def value : Expr → Run Value
  | .literal v => pure v
  | .variable name => variableValue name
  | .list items => do return .list (← values items)
  | .map ms => do return Grammar.mapOfMembers (← members ms)
  | .member line base name => do
    let v ← opened (← value base)
    located line (Access.member v name)
  | .item line base key => do
    let v ← value base
    let k ← value key
    located line (Access.item (← opened v) (← settle k))
  | .slice line base start stop step => do
    let v ← settle (← value base)
    let i ← value start
    let j ← value stop
    let k ← value step
    located line (if v.isMissing then .error .undefinedValue else Access.slice v i j k)
  | .not line e => do
    let v ← opened (← value e)
    return .boolean !(← located line (Operator.isTrue v))
  | .negate line e => do located line (Arithmetic.negate (← value e))
  | .operation line op l r => do
    let v ← value l
    let w ← value r
    located line (op.apply (← settle v) (← settle w))
  | .both line l r => do
    let v ← value l
    if ← located line (Operator.isTrue (← opened v)) then value r else return v
  | .either line l r => do
    let v ← value l
    if ← located line (Operator.isTrue (← opened v)) then return v else value r
  | .choice line c yes no => do
    if ← located line (Operator.isTrue (← opened (← value c))) then value yes else value no
  | .filter line name e args => do
    let v ← value e
    let as ← arguments args
    applyFilter line name v (gather as)
  | .test line name e args => do
    let v ← value e
    let as ← arguments args
    applyTest line name v (gather as)
  | .call line name args => do
    let as ← arguments args
    callNamed invoke line name (gather as)
  | .callMember line base name args => do
    let v ← value base
    let as ← arguments args
    callMember invoke line v name (gather as)
  | .callValue line callee args => do
    let v ← value callee
    let as ← arguments args
    callValue invoke line v (gather as)

def values : List Expr → Run (List Value)
  | [] => return []
  | e :: es => do
    let v ← value e
    return v :: (← values es)

/-- The members that a map is written with. -/
def members : List (Expr × Expr) → Run (List (Value × Value))
  | [] => return []
  | (k, e) :: ms => do
    let k ← value k
    let v ← value e
    return (k, v) :: (← members ms)

def arguments : List (Option String × Expr) → Run (List (Option String × Value))
  | [] => return []
  | (n, e) :: args => do
    let v ← value e
    return (n, v) :: (← arguments args)

end

mutual

def assign (v : Value) : Target → Run Unit
  | .name name => modify (·.assign name v)
  | .each line ts => do
    match Order.items? (← opened v) with
    | none => trouble line .wrongItemCount
    | some vs => if vs.length = ts.length then assignEach vs ts else trouble line .wrongItemCount
  | .member line base name => do
    match ← value invoke base with
    | .space place =>
      let insert := Grammar.insertMember (.text name) v
      modify fun s => { s with spaces := updateAt place insert s.spaces }
    | _ => trouble line .invalidOperation

/-- Gives targets values, one to each. -/
def assignEach (vs : List Value) : List Target → Run Unit
  | [] => return ()
  | t :: ts =>
    match vs with
    | [] => return ()
    | v :: vs => do
      assign v t
      assignEach vs ts

end

/-- Applies filters to a text, one after the other. -/
def filtered (v : Value) : List BlockFilter → Run Value
  | [] => return v
  | f :: fs => do
    let as ← arguments invoke f.arguments
    let v ← applyFilter f.line f.name v (gather as)
    filtered v fs

/-- Gives targets the values of expressions, where later ones see earlier ones. -/
def bindAll : List (Target × Expr) → Run Unit
  | [] => return ()
  | (t, e) :: rest => do
    assign invoke (← value invoke e) t
    bindAll rest

/-- The items of a loop: those of its source for which the condition holds. -/
def loopItems (line : Nat) (target : Target) (source : Expr) (condition : Option (Nat × Expr)) :
    Run (List Value) := do
  let v ← opened (← value invoke source)
  let vs ← located line (Operator.iterate v)
  match condition with
  | none => return vs
  | some (own, c) =>
    within line .empty (vs.filterM fun v => do
      assign invoke v target
      located own (Operator.isTrue (← opened (← value invoke c))))

def eachItem (identity length : Nat) (target : Target) (body : Run String) :
    Nat → Value → List Value → Run String
  | _, _, [] => return ""
  | index, previous, v :: vs => do
    let step := Value.loop identity index length previous (vs.head?.getD (.undefined false))
    modify (·.updateFrame fun f => { f with step := some step })
    assign invoke v target
    let s ← body
    return s ++ (← eachItem identity length target body (index + 1) v vs)

/-- The number of a new loop. -/
def newLoop : Run Nat := modifyGet fun s => (s.loops, { s with loops := s.loops + 1 })

def declare (name : String) (parameters : List (String × Option Expr)) (body : List Node) :
    Run Unit :=
  modify fun s =>
    let (s, memory) := s.withMemory
    let place := s.routines.length
    let s := { s with routines := s.routines ++ [Routine.mk parameters body memory] }
    s.assign name (.routine place name)

/-- The fate of an insertion: no other template exists, and one may be asked for optionally. -/
def insertion (optional : Bool) (name : Value) : Except Fault String :=
  let names := match name with
    | .list vs => vs
    | v => [v]
  if names.any (·.text?.isNone) then .error .invalidOperation
  else if names.isEmpty || optional then .ok ""
  else .error .templateNotFound

/-- The name of the template that is rendered. -/
def ownName : String := "release"

/-- The fate of an inheritance: no other template exists, and none inherits from itself. -/
def inheritance (name : Value) : Except Fault String :=
  match name.text? with
  | none => .error .invalidOperation
  | some s => if s = ownName then .error .invalidOperation else .error .templateNotFound

mutual

def node : Node → Run String
  | .text s => pure s
  | .print line e => do
    let v ← settle (← value invoke e)
    located line (Operator.write v)
  | .branch line c yes no => do
    if ← located line (Operator.isTrue (← opened (← value invoke c))) then nodes yes else nodes no
  | .loop line target source condition body otherwise => do
    let vs ← loopItems invoke line target source condition
    let identity ← newLoop
    match vs with
    | [] => nodes otherwise
    | v :: vs =>
      within line .empty do
        eachItem invoke identity (vs.length + 1) target (nodes body) 0 (.undefined false) (v :: vs)
  | .scope bindings body => within 0 .empty do
    bindAll invoke bindings
    nodes body
  | .assign target e => do
    assign invoke (← value invoke e) target
    return ""
  | .capture target filters body => do
    let s ← nodes body
    let v ← filtered invoke (.text s) filters
    assign invoke v target
    return ""
  | .filtered line filters body => do
    let s ← nodes body
    let v ← settle (← filtered invoke (.text s) filters)
    located line (Operator.write v)
  | .routine name parameters body => do
    declare name parameters body
    return ""
  | .discard e => do
    let _ ← value invoke e
    return ""
  | .insertion line name optional => do
    located line (insertion optional (← settle (← value invoke name)))
  | .inheritance line name => do
    located line (inheritance (← settle (← value invoke name)))

/-- What nodes write, one after the other. -/
def nodes : List Node → Run String
  | [] => return ""
  | n :: ns => do
    let s ← node n
    return s ++ (← nodes ns)

end

/-- Gives parameters their values, the last one first. A parameter without a value has its default.
-/
def bindParameters (given : List (String × Value)) : List (String × Option Expr) → Run Unit
  | [] => return ()
  | (name, default) :: rest => do
    bindParameters given rest
    let v := (given.lookup name).getD (.undefined false)
    match default with
    | some e =>
      if v.isUndefined then modify (·.assign name (← value invoke e)) else modify (·.assign name v)
    | none => modify (·.assign name v)

end

/-- The values that a call gives to parameters. -/
def given (parameters : List String) (args : Arguments) : Except Fault (List (String × Value)) :=
  let inOrder := parameters.zip args.1
  if parameters.length < args.1.length then .error .surplusArgument
  else if args.2.all fun (n, _) => parameters.contains n && (inOrder.lookup n).isNone then
    .ok (inOrder ++ args.2)
  else .error .surplusArgument

/-- The state in which a macro's body runs. -/
def callState (memory : Nat) (s : State) : Except Fault State :=
  let s' := { s with
    outerDepth := s.depth + callDepth
    frames := [{ Frame.empty with backing := .memory memory }] }
  if depthLimit < s'.depth then .error .invalidOperation else .ok s'

/-- Runs in the frame of a macro's call. -/
def inCall {α : Type} (line memory : Nat) (run : Run α) : Run α := fun s =>
  match callState memory s with
  | .error fault => .error ⟨fault, line⟩
  | .ok s' =>
    match run s' with
    | .ok (a, s'') => .ok (a, { s'' with frames := s.frames, outerDepth := s.outerDepth })
    | .error t => .error t

/-- Calls a macro; macros may be inside each other so many times. -/
def invoke : Nat → Invoke
  | 0, line, _, _ => trouble line .invalidOperation
  | room + 1, line, place, args => do
    match (← get).routines[place]? with
    | none => trouble line .invalidOperation
    | some r =>
      let values ← located line (given (r.parameters.map Prod.fst) args)
      let s ← inCall line r.memory do
        bindParameters (invoke room) values r.parameters
        nodes (invoke room) r.body
      return .text s

/-- What a template writes with a context. Calls of macros go no deeper than the frames allow, so
that their number never ends a rendering. -/
def render (template : List Node) (context : List (Value × Value)) : Except Trouble String :=
  match nodes (invoke depthLimit) template (State.initial context) with
  | .ok (s, _) => .ok s
  | .error t => .error t

end ReleaseBulletin.Template.Evaluator

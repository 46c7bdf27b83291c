import ReleaseBulletin.Template.Node

/-!
The names that a template's nodes see, and the stores behind values that are shared: namespaces,
macros and what macros remember.
-/
namespace ReleaseBulletin.Template.Scope

/-- What a frame falls back to. -/
inductive Backing where
  | nothing
  /-- The values that the template is rendered with. -/
  | context (members : List (Value × Value))
  /-- What a macro remembers, by its place in the store. -/
  | memory (place : Nat)
  deriving Repr

/-- The names of a block. Assignments also go to the memory of the macros that the block declares.
-/
structure Frame where
  assigned : List (String × Value)
  step : Option Value
  memory : Option Nat
  backing : Backing
  deriving Repr

def Frame.empty : Frame := ⟨[], none, none, .nothing⟩

/-- A macro. -/
structure Routine where
  parameters : List (String × Option Expr)
  body : List Node
  memory : Nat
  deriving Repr

/-- The state of a rendering. The innermost frame comes first. -/
structure State where
  frames : List Frame
  /-- The depth of the frames of the callers. -/
  outerDepth : Nat
  memories : List (List (String × Value))
  spaces : List (List (Value × Value))
  routines : List Routine
  /-- What loops were last asked about. -/
  asked : List (Nat × List Value)
  /-- The number of loops so far. -/
  loops : Nat

def State.initial (context : List (Value × Value)) : State :=
  { frames := [{ Frame.empty with backing := .context context }]
    outerDepth := 0
    memories := []
    spaces := []
    routines := []
    asked := []
    loops := 0 }

/-- Gives a name a value. -/
def bind (name : String) (v : Value) : List (String × Value) → List (String × Value)
  | [] => [(name, v)]
  | (n, w) :: rest => if n = name then (n, v) :: rest else (n, w) :: bind name v rest

def functionNames : List String := ["debug", "dict", "namespace", "range"]

/-- The value of a name in a frame. A macro remembers every name, the ones without a value too. -/
def Frame.lookup? (memories : List (List (String × Value))) (f : Frame) (name : String) :
    Option Value :=
  match f.assigned.lookup name, f.step with
  | some v, _ => some v
  | none, some v => if name = "loop" then some v else none
  | none, none =>
    match f.backing with
    | .nothing => none
    | .context members => Order.lookup? members (.text name)
    | .memory place => (memories[place]?).bind (·.lookup name)

def Frame.isCall (f : Frame) : Bool :=
  match f.backing with
  | .memory _ => true
  | _ => false

def State.lookup? (s : State) (name : String) : Option Value :=
  match s.frames.findSome? (·.lookup? s.memories name) with
  | some v => some v
  | none =>
    if functionNames.contains name then some (.function name)
    else if s.frames.any Frame.isCall then some (.undefined false)
    else none

def Frame.names (memories : List (List (String × Value))) (f : Frame) : List (String × Value) :=
  let behind : List (String × Value) := match f.backing with
    | .nothing => []
    | .context members => members.filterMap fun (k, v) => k.text?.map fun s => (s, v)
    | .memory place => memories[place]?.getD []
  f.assigned ++ (f.step.map fun v => ("loop", v)).toList ++ behind

/-- All names with their values; of a repeated name the first value counts. -/
def State.names (s : State) : List (String × Value) := s.frames.flatMap (·.names s.memories)

def State.updateFrame (s : State) (f : Frame → Frame) : State :=
  match s.frames with
  | [] => s
  | top :: rest => { s with frames := f top :: rest }

/-- Changes an item of a list. -/
def updateAt {α : Type} (place : Nat) (f : α → α) (items : List α) : List α :=
  match items[place]? with
  | some a => items.set place (f a)
  | none => items

def State.assign (s : State) (name : String) (v : Value) : State :=
  let memory := s.frames.head?.bind Frame.memory
  let memories := match memory with
    | some place => updateAt place (bind name v) s.memories
    | none => s.memories
  { s.updateFrame fun f => { f with assigned := bind name v f.assigned } with memories := memories }

/-- Adds the names that a memory lacks. -/
def remember (names memory : List (String × Value)) : List (String × Value) :=
  names.foldl (fun m (n, v) => if (m.lookup n).isSome then m else m ++ [(n, v)]) memory

/-- The memory of the innermost frame, which remembers all names. -/
def State.withMemory (s : State) : State × Nat :=
  match s.frames.head?.bind Frame.memory with
  | some place => ({ s with memories := updateAt place (remember s.names) s.memories }, place)
  | none =>
    let place := s.memories.length
    let s' := s.updateFrame fun f => { f with memory := some place }
    ({ s' with memories := s.memories ++ [remember s.names []] }, place)

/-- How many frames there may be. A macro's call counts as five. -/
def depthLimit : Nat := 500

/-- How many frames a macro's call counts as, apart from its own one. -/
def callDepth : Nat := 4

def State.depth (s : State) : Nat := s.outerDepth + s.frames.length

/-- Opens a block. -/
def State.enter (s : State) (f : Frame) : Except Fault State :=
  if depthLimit < s.depth then .error .invalidOperation else .ok { s with frames := f :: s.frames }

/-- Closes a block. -/
def State.leave (s : State) : State := { s with frames := s.frames.tail }

/-- What a namespace holds, going through so many namespaces. -/
def contentsAt (spaces : List (List (Value × Value))) : Nat → Nat → Value
  | 0, _ => .map []
  | steps + 1, place =>
    match spaces[place]? with
    | some members => Value.settled (contentsAt spaces steps) (.map members)
    | none => .map []

/-- The value with what its namespaces hold. -/
def State.settle (s : State) (v : Value) : Value :=
  if s.spaces.isEmpty then v else Value.settled (contentsAt s.spaces (s.spaces.length + 1)) v

/-- The value itself, or what it holds if it is a namespace. -/
def State.opened (s : State) (v : Value) : Value :=
  match v with
  | .space place => .map (s.spaces[place]?.getD [])
  | v => v

end ReleaseBulletin.Template.Scope

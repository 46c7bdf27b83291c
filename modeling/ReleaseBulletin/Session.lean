import ReleaseBulletin.Failure
import ReleaseBulletin.Http.Message
import ReleaseBulletin.Notice

/-!
Sessions: computations that ask the outside world for files and resources and leave notices. What a
session does in a given world is a value: the events in order, and the result.
-/
namespace ReleaseBulletin
open Http

/-- A computation with questions to the world. It ends with a value or at its first failure. -/
inductive Session (α : Type) where
  | done (result : Except Failure α)
  | note (notice : Notice) (next : Session α)
  | read (path : String) (next : Except FileTree.Fault Bytes → Session α)
  | probe (path : String) (next : Bool → Session α)
  | send (request : Request) (next : Contact → Session α)

namespace Session

variable {α β : Type}

/-- Continues a session with its value. -/
def bind (s : Session α) (f : α → Session β) : Session β :=
  match s with
  | .done (.ok a) => f a
  | .done (.error e) => .done (.error e)
  | .note n next => .note n (next.bind f)
  | .read p next => .read p fun r => (next r).bind f
  | .probe p next => .probe p fun r => (next r).bind f
  | .send r next => .send r fun c => (next c).bind f

instance : Monad Session where
  pure a := .done (.ok a)
  bind := bind

/-- Ends a session with a failure. -/
def fail (e : Failure) : Session α := .done (.error e)

/-- Ends a session with a result. -/
def ofResult (result : Except Failure α) : Session α := .done result

/-- Leaves a notice. -/
def notify (level : Notice.Level) (topic : Notice.Topic) : Session Unit :=
  .note ⟨level, topic⟩ (.done (.ok ()))

def readFile (path : String) : Session (Except FileTree.Fault Bytes) :=
  .read path fun r => .done (.ok r)

def fileExists (path : String) : Session Bool := .probe path fun r => .done (.ok r)

/-- Sends a request. -/
def ask (request : Request) : Session Contact := .send request fun c => .done (.ok c)

def readText (path : String) : Session String :=
  .read path fun content =>
    match FileTree.textOf content with
    | .ok s => .done (.ok s)
    | .error fault => fail (.file path fault)

/-- Continues with the result, be it a value or a failure. -/
def attempt (s : Session α) : Session (Except Failure α) :=
  match s with
  | .done result => .done (.ok result)
  | .note n next => .note n next.attempt
  | .read p next => .read p fun r => (next r).attempt
  | .probe p next => .probe p fun r => (next r).attempt
  | .send r next => .send r fun c => (next c).attempt

end Session

/-- The world that a session runs in. -/
structure Session.World where
  readFile : String → Except FileTree.Fault Bytes
  fileExists : String → Bool
  contact : Request → Contact

/-- A world with the given files in which requests have the given fate. -/
def Session.World.of (files : FileTree.Node) (contact : Request → Contact) : World :=
  ⟨FileTree.read files, FileTree.exists? files, contact⟩

/-- A trace that a session leaves in the world. -/
inductive Session.Event where
  | noticed (notice : Notice)
  | received (request : Request)
  deriving DecidableEq, Repr

/-- What a session did: its traces in order, and its result. -/
structure Session.Outcome (α : Type) where
  events : List Event
  result : Except Failure α

/-- The trace of a request, if it was received. -/
def Session.receipt (request : Request) (contact : Contact) : List Event :=
  if contact.wasReceived then [.received request] else []

/-- The outcome with earlier traces. -/
def Session.Outcome.after {α : Type} (events : List Event) (o : Outcome α) : Outcome α :=
  ⟨events ++ o.events, o.result⟩

def Session.run {α : Type} (w : World) : Session α → Outcome α
  | .done result => ⟨[], result⟩
  | .note n next => (next.run w).after [.noticed n]
  | .read p next => (next (w.readFile p)).run w
  | .probe p next => (next (w.fileExists p)).run w
  | .send r next => ((next (w.contact r)).run w).after (receipt r (w.contact r))

/-- The requests that were received, in order. -/
def Session.Outcome.requests {α : Type} (o : Outcome α) : List Request :=
  o.events.filterMap fun
    | .received r => some r
    | .noticed _ => none

/-- The notices that were left, in order. -/
def Session.Outcome.notices {α : Type} (o : Outcome α) : List Notice :=
  o.events.filterMap fun
    | .noticed n => some n
    | .received _ => none

@[simp]
theorem Session.Outcome.after_nil {α : Type} (o : Outcome α) : o.after [] = o := rfl

theorem Session.Outcome.after_after {α : Type} (xs ys : List Event) (o : Outcome α) :
    (o.after ys).after xs = o.after (xs ++ ys) := by
  simp [Outcome.after]

/-- The outcome of continuing after an outcome. -/
def Session.Outcome.bind {α β : Type} (o : Outcome α) (f : α → Outcome β) : Outcome β :=
  match o.result with
  | .ok a => (f a).after o.events
  | .error e => ⟨o.events, .error e⟩

theorem Session.Outcome.bind_after {α β : Type} (events : List Event) (o : Outcome α)
    (f : α → Outcome β) :
    (o.after events).bind f = (o.bind f).after events := by
  cases o with
  | mk es r => cases r <;> simp [Outcome.bind, Outcome.after]

/-- Running a continued session runs its first part and then the rest. -/
theorem Session.run_bind {α β : Type} (w : World) (s : Session α) (f : α → Session β) :
    (s.bind f).run w = (s.run w).bind fun a => (f a).run w := by
  induction s with
  | done result => cases result <;> rfl
  | note n next ih => simp [Session.bind, Session.run, ih, Outcome.bind_after]
  | read p next ih => simp [Session.bind, Session.run, ih]
  | probe p next ih => simp [Session.bind, Session.run, ih]
  | send r next ih => simp [Session.bind, Session.run, ih, Outcome.bind_after]

end ReleaseBulletin

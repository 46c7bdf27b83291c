import ReleaseBulletin.Failure
import ReleaseBulletin.Note.Basic
import ReleaseBulletin.Note.Standard
import ReleaseBulletin.Template.Evaluator
import ReleaseBulletin.Width

/-!
Rendering a release note with a template. The parts of a note have names, in a fixed order.
-/
namespace ReleaseBulletin.Note
open ChainRuntime Template

/-- A map with names as keys. -/
def Renderer.record (fields : List (String × Value)) : Value :=
  .map (fields.map fun (k, v) => (.text k, v))

def Renderer.optionalText : Option String → Value
  | some s => .text s
  | none => .none

def Renderer.ofChange (c : Change) : Value :=
  record
    [("number", .integer c.number),
     ("title", .text c.title),
     ("url", .text c.url),
     ("repository", .text c.repository),
     ("labels", .list (c.labels.names.map .text)),
     ("pretty_title", .text c.prettyTitle)]

def Renderer.ofPriority (p : Change.Priority) : Value :=
  record
    [("value", .integer p.value), ("label", .text p.label), ("name", .text p.name),
     ("text", .text p.advice)]

def Renderer.ofArtifact (a : Artifact) : Value :=
  record
    [("name", .text a.name), ("spec_version", .integer a.specVersion),
     ("srtool", Value.ofJson a.report)]

def Renderer.context (n : Note) : List (String × Value) :=
  [("version", .text n.version),
   ("current_ref", .text n.currentRef),
   ("previous_ref", optionalText n.previousRef),
   ("repository", .text n.repository),
   ("rustc_stable", .text n.rustcStable),
   ("rustc_nightly", .text n.rustcNightly),
   ("substrate_commit", optionalText n.substrateCommit),
   ("substrate_previous_commit", optionalText n.substratePreviousCommit),
   ("changelog_enabled", .boolean n.changelogEnabled),
   ("release_priority", ofPriority n.priority),
   ("release_notes", .list (n.releaseNotes.map ofChange)),
   ("client_changes", .list (n.clientChanges.map ofChange)),
   ("runtime_changes", .list (n.runtimeChanges.map ofChange)),
   ("runtimes", .list (n.runtimes.map ofArtifact))]

/-- A template that was read. -/
structure Renderer where
  nodes : List Template.Node

def Renderer.ofTemplate (source : String) : Except Failure Renderer :=
  match Template.Reader.ofTemplate? source with
  | some nodes => .ok ⟨nodes⟩
  | none => .error .invalidTemplate

/-- The last line that a failure can tell: lines are counted in 16 bits, and the count stops at its
greatest number. -/
def Renderer.lastLine : Nat := Width.count 16 - 1

def Renderer.failure (t : Evaluator.Trouble) : Failure := .rendering t.fault (min t.line lastLine)

def Renderer.render (r : Renderer) (n : Note) : Except Failure String :=
  match Template.Evaluator.render r.nodes ((context n).map fun (k, v) => (.text k, v)) with
  | .ok s => .ok s
  | .error t => .error (failure t)

/-- Reads the template in the file, or the standard one if none is given. -/
def Renderer.load (path : Option String) : Session Renderer :=
  match path with
  | none => .ofResult (ofTemplate Standard.template)
  | some path => do
    let s ← Session.readText path
    Session.notify .debug .template
    .ofResult (ofTemplate s)

end ReleaseBulletin.Note

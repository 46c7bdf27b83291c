import ReleaseBulletin.Change.Labels
import ReleaseBulletin.Document.Record
import ReleaseBulletin.Json.Printer
import ReleaseBulletin.Width

/-!
Changes: the merged change requests that a release note speaks of, and their form as documents.
-/
namespace ReleaseBulletin
open Document Document.Record Change

/-- A merged change request. -/
structure Change where
  number : Nat
  title : String
  url : String
  /-- Owner and name of the repository that the change belongs to. -/
  repository : String
  labels : Labels
  /-- The title as it is displayed. -/
  prettyTitle : String
  deriving DecidableEq, Repr

def Change.hasLabel (c : Change) (label : String) : Bool := decide (label ∈ c.labels)

/-- One more than the greatest number of a change. -/
def Change.numberLimit : Nat := Width.count 64

def Change.fieldNames : List String :=
  ["number", "title", "url", "repository", "labels", "pretty_title"]

def Change.ofTree? (t : Tree) : Option Change :=
  match fields? .refused fieldNames t with
  | some [number, title, url, repository, labels, prettyTitle] => do
    return {
      number := ← required (·.natBelow? numberLimit) number
      title := ← required Tree.text? title
      url := ← required Tree.text? url
      repository := ← required Tree.text? repository
      labels := Labels.ofList (← required (·.listOf? Tree.text?) labels)
      prettyTitle := ← required Tree.text? prettyTitle }
  | _ => none

def Change.toTree (c : Change) : Tree :=
  .table
    [(some "number", .integer c.number),
     (some "title", .text c.title),
     (some "url", .text c.url),
     (some "repository", .text c.repository),
     (some "labels", .list (c.labels.names.map .text)),
     (some "pretty_title", .text c.prettyTitle)]

def Change.ofJson? (s : String) : Option Change := (Json.Parser.parse s).bind ofTree?

def Change.toJson (c : Change) : String := Json.Printer.print c.toTree

end ReleaseBulletin

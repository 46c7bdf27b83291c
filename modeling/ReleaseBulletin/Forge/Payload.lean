import ReleaseBulletin.Change.Labels
import ReleaseBulletin.Document.Record
import ReleaseBulletin.Width

/-!
What the forge tells about releases, commits and change requests. Fields that a release note has no
use for are skipped.
-/
namespace ReleaseBulletin.Forge.Payload
open Document Document.Record

/-- A published release. -/
structure Release where
  tagName : String
  deriving DecidableEq, Repr

/-- A commit with its message. -/
structure Commit where
  sha : String
  message : String
  deriving DecidableEq, Repr

/-- The commits between two references. -/
structure Comparison where
  /-- The number of commits in all. The list may have only one page of them. -/
  total : Nat
  commits : List Commit
  deriving DecidableEq, Repr

/-- A change request. -/
structure PullRequest where
  number : Nat
  title : String
  url : String
  /-- When the request was merged, if it was. -/
  mergedAt : Option String
  /-- The names of the labels in the order in which they were sent. -/
  labels : List String
  deriving DecidableEq, Repr

def PullRequest.isMerged (p : PullRequest) : Bool := p.mergedAt.isSome

/-- One more than the greatest number in a document. -/
def numberLimit : Nat := Width.count 64

def release? (t : Tree) : Option Release :=
  match fields? .refused ["tag_name"] t with
  | some [tagName] => (required Tree.text? tagName).map .mk
  | _ => none

def message? (t : Tree) : Option String :=
  match fields? .refused ["message"] t with
  | some [message] => required Tree.text? message
  | _ => none

def commit? (t : Tree) : Option Commit :=
  match fields? .refused ["sha", "commit"] t with
  | some [sha, detail] => do
    return { sha := ← required Tree.text? sha, message := ← required message? detail }
  | _ => none

def comparison? (t : Tree) : Option Comparison :=
  match fields? .refused ["total_commits", "commits"] t with
  | some [total, commits] => do
    return {
      total := ← orElse 0 (·.natBelow? numberLimit) total
      commits := ← orElse [] (·.listOf? commit?) commits }
  | _ => none

/-- The name of a label's document. -/
def label? (t : Tree) : Option String :=
  match fields? .refused ["name"] t with
  | some [name] => required Tree.text? name
  | _ => none

def pullRequest? (t : Tree) : Option PullRequest :=
  match fields? .refused ["number", "title", "html_url", "merged_at", "labels"] t with
  | some [number, title, url, mergedAt, labels] => do
    return {
      number := ← required (·.natBelow? numberLimit) number
      title := ← required Tree.text? title
      url := ← required Tree.text? url
      mergedAt := ← orElse none (·.optional? Tree.text?) mergedAt
      labels := ← orElse [] (·.listOf? label?) labels }
  | _ => none

end ReleaseBulletin.Forge.Payload

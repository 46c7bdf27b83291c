import ReleaseBulletin.Forge.Client
import ReleaseBulletin.Forge.FileContents
import ReleaseBulletin.Forge.Payload
import ReleaseBulletin.Reference

/-!
The resources of a repository: a file at a reference, the latest release, the commits between two
references, and a change request.
-/
namespace ReleaseBulletin.Forge.Resource
open Payload Session

def segments (repository : String) (resource : List String) : List String :=
  "repos" :: Path.components repository ++ resource

def contentsSegments (repository path : String) : List String :=
  segments repository ("contents" :: (Path.components path).filter (· ≠ ""))

def compareSegments (repository base head : String) : List String :=
  segments repository ["compare", Reference.shortName base ++ "..." ++ Reference.shortName head]

def pullRequestSegments (repository : String) (number : Nat) : List String :=
  segments repository ["pulls", toString number]

def contents (c : Client) (repository path reference : String) : Session FileContents := do
  let endpoint ← ofResult (c.endpoint (contentsSegments repository path))
  c.get FileContents.ofTree? endpoint [("ref", reference)]

def latestRelease (c : Client) (repository : String) : Session Release := do
  let endpoint ← ofResult (c.endpoint (segments repository ["releases", "latest"]))
  c.get release? endpoint []

def pageSize : Nat := 100

/-- One page of the commits between two references; the first page has number one. -/
def comparisonPage (c : Client) (endpoint : Url) (page : Nat) : Session Comparison :=
  c.get comparison? endpoint [("per_page", toString pageSize), ("page", toString page)]

/-- The number of the page after the given one. Page numbers have 32 bits. -/
def nextPage (page : Nat) : Nat := (page + 1) % Width.count 32

/-- The commits collected so far with those of the pages from the given one on, until there are as
many as the total. Every page has a commit, so no more pages are wanted than commits are missing. -/
def collectPages (c : Client) (endpoint : Url) (total : Nat) :
    Nat → Nat → List Commit → Session (List Commit)
  | 0, _, collected => return collected
  | room + 1, page, collected =>
    if collected.length < total then do
      let next ← comparisonPage c endpoint page
      match next.commits with
      | [] => fail (.comparisonEnded endpoint.print collected.length total)
      | commits => do
        notify .debug .client
        collectPages c endpoint total room (nextPage page) (collected ++ commits)
    else return collected

/-- The commits between two references, oldest first. The first page tells how many there are. -/
def compare (c : Client) (repository base head : String) : Session Comparison := do
  let endpoint ← ofResult (c.endpoint (compareSegments repository base head))
  let first ← comparisonPage c endpoint 1
  let missing := first.total - first.commits.length
  let commits ← collectPages c endpoint first.total missing 2 first.commits
  return ⟨first.total, commits⟩

def pullRequest (c : Client) (repository : String) (number : Nat) : Session PullRequest := do
  let endpoint ← ofResult (c.endpoint (pullRequestSegments repository number))
  c.get pullRequest? endpoint []

end ReleaseBulletin.Forge.Resource

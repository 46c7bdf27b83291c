import ReleaseBulletin.Change.Basic
import ReleaseBulletin.Change.Subject
import ReleaseBulletin.Forge.Resource

/-!
Retrieving changes: the merged change requests that the commits between two references name.
-/
namespace ReleaseBulletin.Change.Retrieval
open Forge Forge.Payload Session

def repositoryName (repository : String) : String :=
  ((Path.components repository).getLast?).getD repository

/-- The title that is displayed for a change: it ends with a link whose text is the change's number,
after the name of the repository if one is given. -/
def prettyTitle (title name : String) (number : Nat) (url : String) : String :=
  title ++ " ([" ++ name ++ "#" ++ toString number ++ "](" ++ url ++ "))"

def ofPullRequest (repository name : String) (p : PullRequest) : Change :=
  { number := p.number
    title := p.title
    url := p.url
    repository := repository
    labels := Labels.ofList p.labels
    prettyTitle := prettyTitle p.title name p.number p.url }

/-- The change with a number: none if the forge knows no such request, as for numbers that stem from
another repository, and none if it was not merged. -/
def change? (c : Client) (repository name : String) (number : Nat) : Session (Option Change) := do
  match ← (Forge.Resource.pullRequest c repository number).attempt with
  | .ok p =>
    if p.isMerged then return some (ofPullRequest repository name p)
    else do
      notify .debug .changes
      return none
  | .error e =>
    if e.isNotFound then do
      notify .debug .changes
      return none
    else fail e

def changesOf (c : Client) (repository name : String) : List Nat → Session (List Change)
  | [] => return []
  | n :: ns => do
    let change ← change? c repository name n
    let rest ← changesOf c repository name ns
    return change.toList ++ rest

/-- The changes of a repository between two references. The repository's name is displayed if the
changes are going to stand among those of another one. -/
def fetchChanges (c : Client) (repository base head : String) (named : Bool) :
    Session (List Change) := do
  let comparison ← Forge.Resource.compare c repository base head
  notify .info .changes
  changesOf c repository (if named then repositoryName repository else "")
    (Subject.numbers (comparison.commits.map (·.message)))

end ReleaseBulletin.Change.Retrieval

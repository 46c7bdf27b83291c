import ReleaseBulletin.ChainRuntime.Artifact
import ReleaseBulletin.Change.Changelog

/-!
What a release note is made of.
-/
namespace ReleaseBulletin
open ChainRuntime Change

/-- The content of a release note. -/
structure Note where
  version : String
  currentRef : String
  /-- The reference of the previous release, if changes were collected. -/
  previousRef : Option String
  repository : String
  rustcStable : String
  rustcNightly : String
  /-- The revision of the paired repository in this release. -/
  substrateCommit : Option String
  /-- The revision of the paired repository in the previous release. -/
  substratePreviousCommit : Option String
  changelogEnabled : Bool
  priority : Priority
  releaseNotes : List Change
  clientChanges : List Change
  runtimeChanges : List Change
  runtimes : List Artifact

def Note.withChangelog (n : Note) (previousRef : String) (l : Changelog) : Note :=
  { n with
    changelogEnabled := true
    previousRef := some previousRef
    priority := l.priority
    releaseNotes := l.releaseNotes
    clientChanges := l.client
    runtimeChanges := l.runtime }

end ReleaseBulletin

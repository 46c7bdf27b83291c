import ReleaseBulletin.Change.Changelog
import ReleaseBulletin.Change.Companion
import ReleaseBulletin.Change.Retrieval
import ReleaseBulletin.Lockfile.Inspector

/-!
Collecting what changed since the last release, in the released repository and in the one it is
paired with.
-/
namespace ReleaseBulletin.Release.Collection
open Change Change.Changelog Environment Forge Session

/-- What changed since the last release. -/
structure Summary where
  /-- The reference of the last release. -/
  previousRef : String
  /-- The revision of the paired repository at the last release. -/
  substratePrevious : String
  /-- The revision of the paired repository now. -/
  substrateCurrent : String
  changelog : Changelog
  deriving DecidableEq, Repr

def collect (c : Client) (build : Build) (settings : Settings) : Session Summary := do
  let latest ← Forge.Resource.latestRelease c build.repository
  let previousRef := Reference.ofTag latest.tagName
  notify .info .release
  notify .info .release
  let primary ← Change.Retrieval.fetchChanges c build.repository previousRef build.currentRef false
  let pinnedAt := Lockfile.Inspector.pinnedCommit c build.repository settings.pin
  let substratePrevious ← pinnedAt previousRef
  let substrateCurrent ← pinnedAt build.currentRef
  notify .info .release
  let paired ← Change.Retrieval.fetchChanges c settings.changes.pairedRepository substratePrevious
    substrateCurrent true
  let all := Change.Companion.merge primary paired settings.changes.companionPattern
  notify .info .changes
  let changelog := classify all settings.changes.bucketLabels
  return ⟨previousRef, substratePrevious, substrateCurrent, changelog⟩

end ReleaseBulletin.Release.Collection

import ReleaseBulletin.Note.Renderer
import ReleaseBulletin.Release.Collection

/-!
Making the release note of a build.
-/
namespace ReleaseBulletin.Release.Bulletin
open ChainRuntime ChainRuntime.Artifact Environment Forge Session

/-- The note of a build without any changes. -/
def plainNote (build : Build) (runtimes : List Artifact) : Note :=
  { version := Reference.shortName build.currentRef
    currentRef := build.currentRef
    previousRef := none
    repository := build.repository
    rustcStable := build.rustcStable
    rustcNightly := build.rustcNightly
    substrateCommit := none
    substratePreviousCommit := none
    changelogEnabled := false
    priority := Change.Priority.low
    releaseNotes := []
    clientChanges := []
    runtimeChanges := []
    runtimes := runtimes }

def withSummary (n : Note) (s : Collection.Summary) : Note :=
  { n.withChangelog s.previousRef s.changelog with
    substrateCommit := some s.substrateCurrent
    substratePreviousCommit := some s.substratePrevious }

/-- Collects the content of the note: the artifacts of the runtimes and, if wanted, the changes. -/
def compose (c : Client) (build : Build) (settings : Settings) : Session Note := do
  let runtimes ← loadAll build.workspace settings.runtimes
  notify .info .release
  let note := plainNote build runtimes
  if settings.changes.enabled then do
    let summary ← Collection.collect c build settings
    return withSummary note summary
  else do
    notify .info .release
    return note

/-- The text of the release note. A template that cannot be read fails before anything is asked of
the forge. -/
def generate (build : Build) (settings : Settings) : Session String := do
  let renderer ← Note.Renderer.load settings.template.path
  notify .info .release
  let c ← ofResult (Client.connect settings.api.url build.token)
  let note ← compose c build settings
  let text ← ofResult (renderer.render note)
  notify .info .release
  return text

end ReleaseBulletin.Release.Bulletin

import ReleaseBulletin.Change.Changelog

/-!
Settings: how the API is reached, where the pinned dependency is found, how changes are sorted, and
which artifacts and template go into the note.
-/
namespace ReleaseBulletin

/-- How the API is reached. -/
structure Settings.Api where
  url : String := "https://api.github.com"
  /-- How long an answer may take, in seconds. -/
  timeout : Nat := 30
  deriving DecidableEq, Repr

/-- Where the pinned dependency is found. -/
structure Settings.Pin where
  /-- The lockfile's path in the repository. -/
  path : String := "Cargo.lock"
  /-- The package whose source tells the revision of the paired repository. -/
  package : String := "sc-cli"
  deriving DecidableEq, Repr

/-- How changes are collected and sorted. -/
structure Settings.Changes where
  enabled : Bool := false
  pairedRepository : String := "tide-labs/substrate"
  /-- The words in a title that tell a companion. -/
  companionPattern : String := "companion"
  releaseNotesLabel : String := "B1-releasenotes"
  clientLabel : String := "B5-clientnoteworthy"
  runtimeLabel : String := "B7-runtimenoteworthy"
  deriving DecidableEq, Repr

/-- Which runtimes are released. -/
structure Settings.Runtimes where
  /-- The directory of the checkout in the workspace. -/
  checkoutDir : String := "tidechain"
  names : List String := ["tidechain", "hertel"]
  deriving DecidableEq, Repr

/-- Which template is used. -/
structure Settings.Template where
  /-- A file that replaces the built-in template. -/
  path : Option String := none
  deriving DecidableEq, Repr

/-- All settings. -/
structure Settings where
  api : Settings.Api := {}
  pin : Settings.Pin := {}
  changes : Settings.Changes := {}
  runtimes : Settings.Runtimes := {}
  template : Settings.Template := {}
  deriving DecidableEq, Repr

def Settings.Changes.bucketLabels (c : Changes) : Change.Changelog.BucketLabels :=
  ⟨c.releaseNotesLabel, c.clientLabel, c.runtimeLabel⟩

end ReleaseBulletin

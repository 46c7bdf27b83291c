import ReleaseBulletin.Change.Audit
import ReleaseBulletin.Change.Priority

/-!
Changelogs: changes sorted into the buckets of a release note. A change is in every bucket whose
label it carries.
-/
namespace ReleaseBulletin.Change
open Priority

def Changelog.withLabel (changes : List Change) (label : String) : List Change :=
  changes.filter (·.hasLabel label)

/-- The labels of the buckets. -/
structure Changelog.BucketLabels where
  releaseNotes : String
  client : String
  runtime : String
  deriving DecidableEq, Repr

/-- The buckets of a release note, and how urgent the upgrade is. -/
structure Changelog where
  releaseNotes : List Change
  client : List Change
  runtime : List Change
  priority : Priority
  deriving DecidableEq, Repr

/-- Sorts changes into buckets. Changes to the runtime show their audit state; the changes to the
client decide the priority. -/
def Changelog.classify (changes : List Change) (labels : BucketLabels) : Changelog :=
  let client := withLabel changes labels.client
  { releaseNotes := withLabel changes labels.releaseNotes
    client := client
    runtime := (withLabel changes labels.runtime).map Audit.annotate
    priority := highest client }

end ReleaseBulletin.Change

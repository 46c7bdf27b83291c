import ReleaseBulletin.Change.Basic
import ReleaseBulletin.Text.Affix
import ReleaseBulletin.Text.CaseMap

/-!
Companions: changes made only to follow a change of the paired repository. A release note does not
repeat them.
-/
namespace ReleaseBulletin.Change.Companion
open Text.Affix Text.CaseMap

/-- Whether the title has the pattern in it when both are in lower case. -/
def isCompanion (c : Change) (pattern : String) : Bool :=
  occursIn (lower pattern.toList) (lower c.title.toList)

def merge (primary paired : List Change) (pattern : String) : List Change :=
  (primary ++ paired).filter fun c => !isCompanion c pattern

end ReleaseBulletin.Change.Companion

import ReleaseBulletin.Text.Affix

/-!
Git references: full names of tags and branches, and the short names that stand in comparisons.
-/
namespace ReleaseBulletin.Reference
open Text.Affix

def ofTag (name : String) : String := "refs/tags/" ++ name

/-- The name without the part that says whether it is a tag or a branch. -/
def shortName (reference : String) : String :=
  match after? "refs/tags/".toList reference.toList with
  | some name => String.ofList name
  | none =>
    match after? "refs/heads/".toList reference.toList with
    | some name => String.ofList name
    | none => reference

theorem shortName_ofTag (name : String) : shortName (ofTag name) = name := by
  rw [shortName, ofTag, String.toList_append, after?_append]
  exact String.ofList_toList

end ReleaseBulletin.Reference

import ReleaseBulletin.Text.Affix

/-!
File paths: texts whose components are separated by slashes.
-/
namespace ReleaseBulletin
open Text.Affix

/-- A path, absolute when it starts with a slash. -/
abbrev Path := String

def Path.isAbsolute (p : Path) : Bool := p.toList.head? == some '/'

/-- Whether a slash has to be put between the path and a name after it. -/
def Path.needsSlash (p : Path) : Bool :=
  match p.toList.getLast? with
  | some c => c != '/'
  | none => false

/-- The path of a name below another path; an absolute name stands for itself. -/
def Path.join (base name : Path) : Path :=
  if isAbsolute name then name
  else if needsSlash base then base ++ "/" ++ name
  else base ++ name

def Path.components (p : Path) : List String := (split '/' p.toList).map String.ofList

end ReleaseBulletin

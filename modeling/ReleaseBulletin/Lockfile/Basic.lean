import ReleaseBulletin.Failure
import ReleaseBulletin.Text.Affix

/-!
Lockfiles: the packages that a repository depends on, with the sources they come from.
-/
namespace ReleaseBulletin
open Text.Affix

/-- A package of a lockfile. -/
structure Lockfile.Package where
  name : String
  version : String
  /-- Where the package comes from; a package of the repository itself has no source. -/
  source : Option String
  deriving DecidableEq, Repr

/-- A lockfile. -/
structure Lockfile where
  /-- The version of the layout. -/
  version : Option Nat
  packages : List Lockfile.Package
  deriving DecidableEq, Repr

/-- The revision that a source names after its first number sign. -/
def Lockfile.revision? (source : String) : Option String :=
  (afterFirst? '#' source.toList).map String.ofList

def Lockfile.Package.revision? (p : Package) : Option String := p.source.bind Lockfile.revision?

def Lockfile.find? (l : Lockfile) (name : String) : Option Package :=
  l.packages.find? (·.name = name)

/-- The revision pinned for a package, or why there is none. -/
def Lockfile.pinnedRevision (l : Lockfile) (name : String) : Except Failure String :=
  match l.find? name with
  | none => .error (.packageNotFound name)
  | some p =>
    match p.source with
    | none => .error (.packageWithoutSource name)
    | some source =>
      match Lockfile.revision? source with
      | none => .error (.sourceWithoutRevision name source)
      | some r => .ok r

end ReleaseBulletin

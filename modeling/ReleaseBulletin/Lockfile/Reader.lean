import ReleaseBulletin.Document.Record
import ReleaseBulletin.Lockfile.Basic
import ReleaseBulletin.Toml.Reader
import ReleaseBulletin.Width

/-!
Reading lockfiles.
-/
namespace ReleaseBulletin.Lockfile.Reader
open Document Document.Record

/-- One more than the greatest version of the layout. -/
def versionLimit : Nat := Width.count 32

def package? (t : Tree) : Option Package :=
  match fields? .ignored ["name", "version", "source"] t with
  | some [name, version, source] => do
    return {
      name := ← required Tree.text? name
      version := ← orElse "" Tree.text? version
      source := ← orElse none (·.optional? Tree.text?) source }
  | _ => none

def ofTree? (t : Tree) : Option Lockfile :=
  match fields? .ignored ["version", "package"] t with
  | some [version, packages] => do
    return {
      version := ← orElse none (·.optional? (·.natBelow? versionLimit)) version
      packages := ← orElse [] (·.listOf? package?) packages }
  | _ => none

def read (s : String) : Except Failure Lockfile :=
  match (Toml.Reader.parse s).bind ofTree? with
  | some l => .ok l
  | none => .error .invalidLockfile

end ReleaseBulletin.Lockfile.Reader

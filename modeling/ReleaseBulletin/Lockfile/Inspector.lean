import ReleaseBulletin.Forge.Resource
import ReleaseBulletin.Lockfile.Reader
import ReleaseBulletin.Settings.Basic

/-!
Inspecting the lockfile of a repository at a reference.
-/
namespace ReleaseBulletin.Lockfile.Inspector
open Forge Session

def lockfileAt (c : Client) (repository : String) (pin : Settings.Pin) (reference : String) :
    Session Lockfile := do
  let file ← Forge.Resource.contents c repository pin.path reference
  let s ← ofResult file.decodeText
  notify .debug .lockfile
  ofResult (Reader.read s)

/-- The revision of the paired repository that the lockfile at a reference pins. -/
def pinnedCommit (c : Client) (repository : String) (pin : Settings.Pin) (reference : String) :
    Session String := do
  let lockfile ← lockfileAt c repository pin reference
  let revision ← ofResult (lockfile.pinnedRevision pin.package)
  notify .info .lockfile
  return revision

end ReleaseBulletin.Lockfile.Inspector

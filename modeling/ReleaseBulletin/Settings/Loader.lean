import ReleaseBulletin.Session
import ReleaseBulletin.Settings.Document
import ReleaseBulletin.Toml.Reader

/-!
Loading settings from files.
-/
namespace ReleaseBulletin.Settings.Loader
open Session

def ofToml? (s : String) : Option Settings := (Toml.Reader.parse s).bind (Document.ofTree? .ignored)

def loadFrom (path : String) : Session Settings := do
  let s ← readText path
  match ofToml? s with
  | some settings => return settings
  | none => fail (.invalidSettings path)

def directory (home : String) : String := Path.join home ".relnotes"

def defaultPath (home : String) : String := Path.join (directory home) "relnotes.toml"

/-- The settings of the user with the given home, the defaults when there is no file. -/
def load (home : Option String) : Session Settings :=
  match home with
  | none => fail .unknownHome
  | some home => do
    let path := defaultPath home
    if ← fileExists path then loadFrom path
    else do
      notify .debug .settings
      return {}

end ReleaseBulletin.Settings.Loader

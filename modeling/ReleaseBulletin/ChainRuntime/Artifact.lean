import ReleaseBulletin.ChainRuntime.SpecVersion
import ReleaseBulletin.Json.Reader
import ReleaseBulletin.Session
import ReleaseBulletin.Settings.Basic

/-!
Artifacts of runtimes: what earlier jobs of the build leave of each runtime in the workspace.
-/
namespace ReleaseBulletin.ChainRuntime
open Json Session

/-- What is released of a runtime. -/
structure Artifact where
  name : String
  specVersion : Nat
  /-- The report of the tool that built it. -/
  report : Value
  deriving Repr

def Artifact.reportPath (workspace name : String) : String :=
  Path.join (Path.join workspace (name ++ "-srtool-json")) (name ++ "_srtool_output.json")

def Artifact.sourcePath (checkout name : String) : String :=
  ["runtime", name, "src", "lib.rs"].foldl Path.join checkout

/-- Reads a report, which is an object. -/
def Artifact.readReport (path : String) : Session Value := do
  let s ← readText path
  match Json.Reader.valueOf? s with
  | none => fail (.invalidReport path)
  | some v => if v.isObject then return v else fail (.reportNotObject path)

def Artifact.readSpecVersion (path : String) : Session Nat := do
  let s ← readText path
  match SpecVersion.ofSource? s with
  | some v => return v
  | none => fail (.noSpecVersion path)

/-- Loads the artifact of one runtime, its source first. -/
def Artifact.load (workspace checkout name : String) : Session Artifact := do
  let specVersion ← readSpecVersion (sourcePath checkout name)
  let report ← readReport (reportPath workspace name)
  notify .debug .runtimes
  return { name, specVersion, report }

def Artifact.checkoutPath (workspace : String) (settings : Settings.Runtimes) : String :=
  Path.join workspace settings.checkoutDir

def Artifact.loadEach (workspace checkout : String) : List String → Session (List Artifact)
  | [] => return []
  | name :: names => do
    let a ← load workspace checkout name
    let rest ← loadEach workspace checkout names
    return a :: rest

/-- Loads the artifacts of all runtimes, in the order of the settings. -/
def Artifact.loadAll (workspace : String) (settings : Settings.Runtimes) :
    Session (List Artifact) :=
  loadEach workspace (checkoutPath workspace settings) settings.names

end ReleaseBulletin.ChainRuntime

import ReleaseBulletin.Command.Arguments
import ReleaseBulletin.Command.Filter
import ReleaseBulletin.Release.Bulletin
import ReleaseBulletin.Settings.Loader

/-!
The command: it makes the release note of the build that the environment describes and prints it.
Nothing is printed unless all of it could be made.
-/
namespace ReleaseBulletin.Command.Run
open Arguments Environment Session

def home? (vars : Variables) : Option String := value? vars "HOME"

def fileSettings (o : Options) (vars : Variables) : Session Settings :=
  match o.config with
  | some path => Settings.Loader.loadFrom path
  | none => Settings.Loader.load (home? vars)

/-- The settings with those of the arguments, which count more. -/
def withOptions (s : Settings) (o : Options) : Settings :=
  { s with
    changes := { s.changes with enabled := o.changelog || s.changes.enabled }
    template := { s.template with path := o.template.or s.template.path } }

def release (o : Options) (vars : Variables) : Session String := do
  if mode vars = .localRun then announce
  let b ← ofResult (build vars)
  let settings ← fileSettings o vars
  notify .info .command
  Release.Bulletin.generate b (withOptions settings o)

/-- The text with a line feed at its end. -/
def terminated (s : String) : String := if s.toList.getLast? = some '\n' then s else s ++ "\n"

/-- What the user gets in the end. -/
structure Ending where
  exitCode : Nat
  output : String
  /-- What is said of a failure. -/
  complaint : Option String
  deriving DecidableEq, Repr

def Ending.ofMisuse (m : Misuse) : Ending := ⟨2, "", some m.message⟩

def Ending.ofText (s : String) : Ending := ⟨0, s, none⟩

def Ending.ofResult : Except Failure String → Ending
  | .ok s => ⟨0, terminated s, none⟩
  | .error e => ⟨1, "", some e.message⟩

/-- What the arguments lead to. -/
inductive Plan where
  /-- An ending without any work. -/
  | settled (ending : Ending)
  /-- A note is to be made, with the notices that the directives let through in the given format. -/
  | work (format : LogFormat) (directives : List Filter.Directive) (session : Session String)

/-- The plan for arguments in an environment. -/
def plan (arguments : List String) (vars : Variables) : Plan :=
  match parse arguments with
  | .error m => .settled (.ofMisuse m)
  | .ok .help => .settled (.ofText helpText)
  | .ok .version => .settled (.ofText versionText)
  | .ok (.run o) => .work o.logFormat (Filter.directives o.verbosity vars) (release o vars)

/-- What a run leaves behind. -/
structure Report where
  ending : Ending
  notices : List Notice
  /-- The requests that were received. -/
  requests : List Http.Request
  deriving DecidableEq, Repr

def run (w : World) (arguments : List String) (vars : Variables) : Report :=
  match plan arguments vars with
  | .settled ending => ⟨ending, [], []⟩
  | .work _ directives session =>
    let o := session.run w
    ⟨.ofResult o.result, o.notices.filter (Filter.shows directives), o.requests⟩

end ReleaseBulletin.Command.Run

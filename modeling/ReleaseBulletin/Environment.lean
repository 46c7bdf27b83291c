import ReleaseBulletin.Session

/-!
The environment of a build: the variables that identify the release, and the mode of the run.
-/
namespace ReleaseBulletin.Environment
open Session

abbrev Variables := String → Option String

/-- The variables that must be set, in the order in which they are reported. -/
def requiredNames : List String :=
  ["GITHUB_REF", "GITHUB_TOKEN", "GITHUB_WORKSPACE", "GITHUB_REPOSITORY", "RUSTC_STABLE",
   "RUSTC_NIGHTLY"]

/-- Whether a run belongs to a build service or to a developer's machine. -/
inductive Mode where
  | ci
  | localRun
  deriving DecidableEq, Repr

/-- The mode is that of a build service exactly if the variable CI is `true`. -/
def mode (vars : Variables) : Mode := if vars "CI" = some "true" then .ci else .localRun

/-- A secret that gives access to the API. -/
structure Token where
  secret : String
  deriving DecidableEq, Repr

/-- A description of the token that tells its length alone. -/
def Token.summary (t : Token) : String := s!"AccessToken(<redacted, {t.secret.utf8ByteSize} bytes>)"

/-- What is shown in the token's place. -/
def Token.shown (_ : Token) : String := "<redacted>"

/-- Whether a variable is set, and the number of bytes of its value. -/
structure Presence where
  name : String
  isSet : Bool
  size : Nat
  deriving DecidableEq, Repr

/-- The presence of one variable. An empty value counts as none. -/
def presence (vars : Variables) (name : String) : Presence :=
  let size := ((vars name).map String.utf8ByteSize).getD 0
  ⟨name, 0 < size, size⟩

def report (vars : Variables) : List Presence := requiredNames.map (presence vars)

def value? (vars : Variables) (name : String) : Option String := (vars name).filter (· ≠ "")

def missing (vars : Variables) : List String := requiredNames.filter fun n => (value? vars n).isNone

/-- What identifies the release being built. -/
structure Build where
  currentRef : String
  repository : String
  token : Token
  workspace : String
  rustcStable : String
  rustcNightly : String
  deriving DecidableEq, Repr

/-- The build that the variables describe, or all that are missing. -/
def build (vars : Variables) : Except Failure Build :=
  match missing vars with
  | [] =>
    let value (name : String) := (value? vars name).getD ""
    .ok
      { currentRef := value "GITHUB_REF"
        repository := value "GITHUB_REPOSITORY"
        token := ⟨value "GITHUB_TOKEN"⟩
        workspace := value "GITHUB_WORKSPACE"
        rustcStable := value "RUSTC_STABLE"
        rustcNightly := value "RUSTC_NIGHTLY" }
  | names => .error (.missingVariables names)

/-- Leaves a notice for the report and for each variable in it. -/
def announce : Session Unit := do
  notify .debug .environment
  requiredNames.forM fun _ => notify .debug .environment

theorem build_eq_error_iff (vars : Variables) (e : Failure) :
    build vars = .error e ↔ missing vars ≠ [] ∧ e = .missingVariables (missing vars) := by
  unfold build
  cases h : missing vars with
  | nil => simp
  | cons n ns => simp [eq_comm]

end ReleaseBulletin.Environment

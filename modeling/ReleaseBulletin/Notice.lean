/-!
Notices that a run leaves on its way, by topic and level.
-/
namespace ReleaseBulletin

/-- How much a notice matters, most first. -/
inductive Notice.Level where
  | error
  | warn
  | info
  | debug
  | trace
  deriving DecidableEq, Repr

def Notice.Level.rank : Level → Nat
  | .error => 1
  | .warn => 2
  | .info => 3
  | .debug => 4
  | .trace => 5

/-- What a notice is about. -/
inductive Notice.Topic where
  | environment
  | settings
  | client
  | changes
  | lockfile
  | release
  | template
  | runtimes
  | command
  deriving DecidableEq, Repr

/-- A notice. Its wording is of no consequence. -/
structure Notice where
  level : Notice.Level
  topic : Notice.Topic
  deriving DecidableEq, Repr

end ReleaseBulletin

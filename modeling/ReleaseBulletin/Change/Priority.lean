import ReleaseBulletin.Change.Basic

/-!
How urgent an upgrade is.
-/
namespace ReleaseBulletin.Change

/-- A row of the priority table. -/
structure Priority where
  /-- The greater, the more urgent. -/
  value : Nat
  /-- The label of changes with this priority. -/
  label : String
  name : String
  /-- Advice for operators. -/
  advice : String
  deriving DecidableEq, Repr

def Priority.low : Priority := ⟨1, "C1-low 📌", "Low", "upgrade at your convenience"⟩

def Priority.medium : Priority := ⟨3, "C3-medium 📣", "Medium", "upgrade within a few days"⟩

def Priority.high : Priority := ⟨7, "C7-high ❗️", "High", "upgrade as soon as possible"⟩

def Priority.critical : Priority := ⟨9, "C9-critical ‼️", "Critical", "upgrade immediately"⟩

/-- All priorities, ascending. -/
def Priority.priorities : List Priority := [low, medium, high, critical]

/-- The most urgent priority whose label some change carries; the lowest without any. -/
def Priority.highest (changes : List Change) : Priority :=
  (priorities.reverse.find? fun p => changes.any (·.hasLabel p.label)).getD low

end ReleaseBulletin.Change

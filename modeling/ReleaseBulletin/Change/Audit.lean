import ReleaseBulletin.Change.Basic

/-!
The audit state of changes to the runtime, and its place in front of their titles.
-/
namespace ReleaseBulletin.Change.Audit

/-- The audit states, in order of precedence. -/
inductive Status where
  | audited
  | notLive
  | trivial
  | pendingNonCriticalAudit
  | needsAudit
  | unknown
  deriving DecidableEq, Repr

/-- The labels that state an audit state, in order of precedence. -/
def statusLabels : List (String × Status) :=
  [("D1-audited 👍", .audited),
   ("D2-notlive 💤", .notLive),
   ("D3-trivial 🧸", .trivial),
   ("D5-nicetohaveaudit ⚠️", .pendingNonCriticalAudit),
   ("D9-needsaudit 👮", .needsAudit)]

/-- The audit state of the first label in order of precedence; unknown without any. -/
def status (labels : Labels) : Status :=
  match statusLabels.find? fun entry => decide (entry.1 ∈ labels) with
  | some entry => entry.2
  | none => .unknown

/-- The words for an audit state. -/
def Status.heading : Status → String
  | .audited => "✅ `audited`"
  | .notLive => "✅ `not live`"
  | .trivial => "✅ `trivial`"
  | .pendingNonCriticalAudit => "⏳ `pending non-critical audit`"
  | .needsAudit => "❌ `AWAITING AUDIT`"
  | .unknown => "⭕️ `unknown audit requirements`"

/-- The change with its audit state in front of the displayed title. -/
def annotate (c : Change) : Change :=
  { c with prettyTitle := (status c.labels).heading ++ " " ++ c.prettyTitle }

end ReleaseBulletin.Change.Audit

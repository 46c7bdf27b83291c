import ReleaseBulletin.Command.Arguments
import ReleaseBulletin.Environment
import ReleaseBulletin.Json.Printer
import ReleaseBulletin.Text.Affix
import ReleaseBulletin.Text.Digit

/-!
Which notices are shown, and how. A filter has directives, each with the least important level that
is shown of the targets with some name; the directive with the longest name decides.
-/
namespace ReleaseBulletin.Command.Filter
open Environment Notice Text.Affix

/-- The name that filters know a topic by. -/
def target : Topic → String
  | .environment => "relnotes_shared::context"
  | .settings => "relnotes_shared::config"
  | .client => "relnotes_github"
  | .changes => "relnotes_core::changelog"
  | .lockfile => "relnotes_core::lockfile"
  | .release => "relnotes_core::pipeline"
  | .template => "relnotes_core::render"
  | .runtimes => "relnotes_core::runtime"
  | .command => "generate_release_text::commands"

/-- How much is shown: everything up to a level, or nothing. -/
abbrev Threshold := Option Level

/-- Whether a level is shown. -/
def admits (threshold : Threshold) (level : Level) : Bool :=
  match threshold with
  | none => false
  | some most => level.rank ≤ most.rank

/-- What is shown of some targets. -/
structure Directive where
  /-- The start of the targets' names; without it the directive is about all of them. -/
  target : Option String
  /-- Whether the directive is about what happens inside some spans of the run only. A notice says
  nothing on the span that it was left in, and is not covered. -/
  isSpanned : Bool
  threshold : Threshold
  deriving DecidableEq, Repr

def Directive.covers (d : Directive) (name : String) : Bool :=
  !d.isSpanned &&
    match d.target with
    | none => true
    | some start => start.toList.isPrefixOf name.toList

/-- The length of a directive's name; none is shorter than an empty one. -/
def Directive.weight (d : Directive) : Nat :=
  match d.target with
  | none => 0
  | some start => start.utf8ByteSize + 1

/-- The later one of two directives unless the earlier one has a longer name. -/
def moreSpecific (earlier : Option Directive) (d : Directive) : Option Directive :=
  match earlier with
  | none => some d
  | some e => if e.weight ≤ d.weight then some d else some e

/-- The directive that decides on a target. -/
def deciding? (directives : List Directive) (name : String) : Option Directive :=
  (directives.filter (·.covers name)).foldl moreSpecific none

def shows (directives : List Directive) (n : Notice) : Bool :=
  match deciding? directives (target n.topic) with
  | none => false
  | some d => admits d.threshold n.level

def thresholdWords : List (List Char × Threshold) :=
  [("off".toList, none), ("error".toList, some .error), ("warn".toList, some .warn),
   ("info".toList, some .info), ("debug".toList, some .debug), ("trace".toList, some .trace)]

def thresholdNumbers : List Threshold :=
  [none, some .error, some .warn, some .info, some .debug, some .trace]

/-- The threshold that a text names, by word or by number. -/
def threshold? (cs : List Char) : Option Threshold :=
  match Text.Digit.natOf? (if cs.head? = some '+' then cs.tail else cs) with
  | some n => thresholdNumbers[n]?
  | none => thresholdWords.lookup (cs.map Char.toLower)

/-- A directive without a level: a level alone, or a target of which everything is shown. -/
def ofWord (cs : List Char) : Directive :=
  match threshold? cs with
  | some threshold => ⟨none, false, threshold⟩
  | none => ⟨some (String.ofList cs), false, some .trace⟩

/-- The threshold after an equals sign; nothing stands for everything. -/
def thresholdAfter? (cs : List Char) : Option Threshold :=
  if cs.isEmpty then some (some .trace) else threshold? cs

def isStart (c : Char) : Bool := c.isAlphanum || 0x80 ≤ c.toNat || c == '-' || c == ':' || c == '_'

/-- The part of a directive after a span: nothing, or a level. -/
def afterSpan? (target : Option String) (cs : List Char) : Option Directive :=
  match cs with
  | [] => some ⟨target, true, some .trace⟩
  | '=' :: level => (thresholdAfter? level).map fun threshold => ⟨target, true, threshold⟩
  | _ => none

/-- The part of a directive from a span's name on. -/
def span? (target : Option String) (cs : List Char) : Option Directive :=
  (afterFirst? ']' cs).bind (afterSpan? target)

def directive? (cs : List Char) : Option Directive :=
  match cs with
  | [] => none
  | '[' :: rest => span? none rest
  | c :: rest =>
    if isStart c then
      let name := (c :: rest).takeWhile fun d => d != '=' && d != '['
      match (c :: rest).dropWhile fun d => d != '=' && d != '[' with
      | [] => some (ofWord name)
      | '=' :: level =>
        (thresholdAfter? level).map fun threshold => ⟨some (String.ofList name), false, threshold⟩
      | _ :: inside => span? (some (String.ofList name)) inside
    else none

/-- The directives of a text, separated by commas. Without any, errors alone are shown. -/
def directives? (s : String) : Option (List Directive) :=
  match (split ',' s.toList).filter (· ≠ []) with
  | [] => some [⟨none, false, some .error⟩]
  | parts => parts.mapM directive?

/-- The level up to which the program's own notices are shown: one step further on a developer's
machine, and one for each time that more is asked for. -/
def ownLevel (verbosity : Nat) (mode : Mode) : Level :=
  match verbosity + (if mode = .localRun then 1 else 0) with
  | 0 => .info
  | 1 => .debug
  | _ => .trace

def ownDirectives (verbosity : Nat) (mode : Mode) : List Directive :=
  ["relnotes", "generate_release_text"].map fun name =>
    ⟨some name, false, some (ownLevel verbosity mode)⟩

/-- The directives of a run: those of the environment, if it has any that can be read. -/
def directives (verbosity : Nat) (vars : Variables) : List Directive :=
  ((vars "RUST_LOG").bind directives?).getD (ownDirectives verbosity (mode vars))

def levelName : Level → String
  | .error => "ERROR"
  | .warn => "WARN"
  | .info => "INFO"
  | .debug => "DEBUG"
  | .trace => "TRACE"

/-- The line that shows a notice. -/
def line (format : Arguments.LogFormat) (n : Notice) : String :=
  match format with
  | .text => levelName n.level ++ " " ++ target n.topic
  | .json =>
    Json.Printer.print
      (.table [(some "level", .text (levelName n.level)), (some "target", .text (target n.topic))])

end ReleaseBulletin.Command.Filter

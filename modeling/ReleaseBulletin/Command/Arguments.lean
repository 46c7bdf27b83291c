import ReleaseBulletin.Text.Affix

/-!
The command's arguments. An option takes the next argument as its value, or what follows an equals
sign; the value is looked at when the next argument that is not one is met, or at the end.
-/
namespace ReleaseBulletin.Command.Arguments
open Text.Affix

/-- How notices are written. -/
inductive LogFormat where
  | text
  | json
  deriving DecidableEq, Repr

/-- What the arguments of a run say. -/
structure Options where
  config : Option String
  template : Option String
  changelog : Bool
  logFormat : LogFormat
  verbosity : Nat
  deriving DecidableEq, Repr

/-- What the command is asked for. -/
inductive Demand where
  | run (options : Options)
  | help
  | version
  deriving DecidableEq, Repr

/-- An option with a value. -/
inductive Setting where
  | config
  | template
  | logFormat
  deriving DecidableEq, Repr

/-- An option without a value. -/
inductive Switch where
  | changelog
  | verbose
  | help
  | version
  deriving DecidableEq, Repr

/-- How an option is shown. -/
def Setting.shown : Setting → String
  | .config => "--config <CONFIG>"
  | .template => "--template <TEMPLATE>"
  | .logFormat => "--log-format <LOG_FORMAT>"

/-- How a switch is shown. -/
def Switch.shown : Switch → String
  | .changelog => "--changelog"
  | .verbose => "--verbose..."
  | .help => "--help"
  | .version => "--version"

/-- Why arguments cannot be followed. -/
inductive Misuse where
  | unexpected (argument : String)
  | missingValue (setting : Setting)
  | invalidValue (value : String) (setting : Setting)
  | surplusValue (value : String) (switch : Switch)
  | repeatedSetting (setting : Setting)
  | repeatedSwitch (switch : Switch)
  deriving DecidableEq, Repr

def Misuse.message : Misuse → String
  | .unexpected argument => "error: unexpected argument '" ++ argument ++ "' found"
  | .missingValue setting =>
    "error: a value is required for '" ++ setting.shown ++ "' but none was supplied"
  | .invalidValue value setting =>
    "error: invalid value '" ++ value ++ "' for '" ++ setting.shown ++ "'"
  | .surplusValue value switch =>
    "error: unexpected value '" ++ value ++ "' for '" ++ switch.shown ++
      "' found; no more were expected"
  | .repeatedSetting setting =>
    "error: the argument '" ++ setting.shown ++ "' cannot be used multiple times"
  | .repeatedSwitch switch =>
    "error: the argument '" ++ switch.shown ++ "' cannot be used multiple times"

/-- Why reading stops before the last argument. -/
inductive Stop where
  | misuse (m : Misuse)
  | help
  | version
  deriving DecidableEq, Repr

/-- What was read so far. -/
structure Progress where
  config : Option String
  template : Option String
  changelog : Bool
  logFormat : Option LogFormat
  verbosity : Nat
  /-- The last option, with its value once that was met, as long as nobody has looked at it. -/
  pending : Option (Setting × Option String)
  deriving DecidableEq, Repr

def Progress.start : Progress := ⟨none, none, false, none, 0, none⟩

def logFormat? : String → Option LogFormat
  | "text" => some .text
  | "json" => some .json
  | _ => none

/-- Gives an option its value, once. -/
def Progress.assign (p : Progress) (setting : Setting) (value : String) : Except Stop Progress :=
  match setting with
  | .config =>
    if p.config.isSome then .error (.misuse (.repeatedSetting .config))
    else if value = "" then .error (.misuse (.missingValue .config))
    else .ok { p with config := some value }
  | .template =>
    if p.template.isSome then .error (.misuse (.repeatedSetting .template))
    else if value = "" then .error (.misuse (.missingValue .template))
    else .ok { p with template := some value }
  | .logFormat =>
    if p.logFormat.isSome then .error (.misuse (.repeatedSetting .logFormat))
    else if value = "" then .error (.misuse (.missingValue .logFormat))
    else
      match logFormat? value with
      | some format => .ok { p with logFormat := some format }
      | none => .error (.misuse (.invalidValue value .logFormat))

/-- Looks at the last option and its value. -/
def Progress.settle (p : Progress) : Except Stop Progress :=
  match p.pending with
  | none => .ok p
  | some (setting, none) => .error (.misuse (.missingValue setting))
  | some (setting, some value) => { p with pending := none }.assign setting value

def Progress.turnOn (p : Progress) (switch : Switch) : Except Stop Progress := do
  let p ← p.settle
  match switch with
  | .changelog =>
    if p.changelog then throw (.misuse (.repeatedSwitch .changelog))
    return { p with changelog := true }
  | .verbose => return { p with verbosity := p.verbosity + 1 }
  | .help => throw .help
  | .version => throw .version

def settings : List (String × Setting) :=
  [("config", .config), ("template", .template), ("log-format", .logFormat)]

def switches : List (String × Switch) :=
  [("changelog", .changelog), ("verbose", .verbose), ("help", .help), ("version", .version)]

/-- The switches by their letters. -/
def letters : List (Char × Switch) := [('v', .verbose), ('h', .help), ('V', .version)]

/-- Reads an option or switch by its long name, with the value after an equals sign. -/
def Progress.long (p : Progress) (name : String) (value : Option String) : Except Stop Progress :=
  match settings.lookup name, switches.lookup name with
  | some setting, _ => do
    let p ← p.settle
    match value with
    | some v => p.assign setting v
    | none => return { p with pending := some (setting, none) }
  | none, some switch =>
    match value with
    | some v => .error (.misuse (.surplusValue v switch))
    | none => p.turnOn switch
  | none, none => .error (.misuse (.unexpected ("--" ++ name)))

def Progress.short (p : Progress) : List Char → Except Stop Progress
  | [] => .ok p
  | c :: cs =>
    match letters.lookup c with
    | some switch => do
      let p ← p.turnOn switch
      p.short cs
    | none => .error (.misuse (.unexpected (String.ofList ['-', c])))

/-- Reads an argument that is no option: it is the value of the last one, if that lacks it. -/
def Progress.plain (p : Progress) (argument : String) : Except Stop Progress :=
  match p.pending with
  | some (setting, none) => .ok { p with pending := some (setting, some argument) }
  | _ => .error (.misuse (.unexpected argument))

/-- Reads an argument. -/
def Progress.next (p : Progress) (argument : String) : Except Stop Progress :=
  match argument.toList with
  | '-' :: '-' :: rest =>
    p.long (String.ofList (rest.takeWhile (· != '='))) ((afterFirst? '=' rest).map String.ofList)
  | '-' :: c :: rest => p.short (c :: rest)
  | _ => p.plain argument

/-- Reads all arguments. Nothing may follow two dashes. -/
def Progress.all (p : Progress) : List String → Except Stop Progress
  | [] => p.settle
  | "--" :: rest =>
    match rest with
    | [] => p.settle
    | argument :: _ => .error (.misuse (.unexpected argument))
  | argument :: rest => do
    let p ← p.next argument
    p.all rest

/-- What was read, with defaults for what was not. -/
def Progress.options (p : Progress) : Options :=
  { config := p.config
    template := p.template
    changelog := p.changelog
    logFormat := p.logFormat.getD .text
    verbosity := p.verbosity }

def parse (arguments : List String) : Except Misuse Demand :=
  match Progress.start.all arguments with
  | .ok p => .ok (.run p.options)
  | .error .help => .ok .help
  | .error .version => .ok .version
  | .error (.misuse m) => .error m

def helpText : String := String.join ([
  "Render the release note for the reference being built",
  "",
  "Usage: generate-release-text [OPTIONS]",
  "",
  "Options:",
  "      --config <CONFIG>          Config file (defaults to ~/.relnotes/relnotes.toml when " ++
    "present)",
  "      --template <TEMPLATE>      Template file replacing the built-in release template",
  "      --changelog                Compute the changelog since the last release",
  "      --log-format <LOG_FORMAT>  Log format: text (default) or json [default: text] " ++
    "[possible values: text, json]",
  "  -v, --verbose...               Verbosity level (-v, -vv)",
  "  -h, --help                     Print help",
  "  -V, --version                  Print version"].map (· ++ "\n"))

def versionText : String := "generate-release-text 0.1.0\n"

end ReleaseBulletin.Command.Arguments

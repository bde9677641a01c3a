import LogWatch.Config.Basic

/-!
# The command line

The arguments of the program. An option with a value takes it after an equals sign or as the next
argument, or, for a short option, right behind its letter; an argument that looks like an option is
no value. Short options without values may share one hyphen. No option is given twice, and nothing
but options is understood.

A value is **pending** until the next option, or the end, so an argument that is not understood is
found before a fault in the value in front of it.
-/

namespace LogWatch

/-- What the arguments say. -/
structure CommandLine where
  /-- The file of the configuration. -/
  config : String := "/etc/logwarden/logwarden.toml"
  /-- The level of the program's own log. -/
  logLevel : Option String := none
  /-- The format of the program's own log. -/
  logFormat : Option String := none
  /-- The configuration is checked and written out, and nothing more. -/
  validate : Bool := false
  /-- All monitors stop at the end of their streams. -/
  oneshot : Bool := false
  /-- The file for the process identifier. -/
  pidFile : Option String := none

namespace CommandLine

/-- Why the program does not go on. -/
inductive Refusal
  | unknownArgument
  /-- A value is missing, or empty where it may not be. -/
  | invalidValue
  /-- An option is given twice. -/
  | argumentConflict
  /-- A value is given to an option that takes none. -/
  | tooManyValues
  /-- The help is asked for. -/
  | displayHelp
  /-- The version is asked for. -/
  | displayVersion
  deriving DecidableEq

/-- The wording of a refusal that is a fault. -/
def Refusal.message : Refusal → String
  | .unknownArgument => "unexpected argument"
  | .invalidValue => "a value is required"
  | .argumentConflict => "an argument cannot be used multiple times"
  | .tooManyValues => "unexpected value"
  | .displayHelp => ""
  | .displayVersion => ""

/-- An option. -/
inductive Opt
  | config
  | logLevel
  | logFormat
  | validate
  | oneshot
  | pidFile
  | help
  | version
  deriving DecidableEq

/-- The options by their long names. -/
def longNames : List (String × Opt) := [
  ("config", .config), ("log-level", .logLevel), ("log-format", .logFormat),
  ("validate", .validate), ("oneshot", .oneshot), ("pid-file", .pidFile), ("help", .help),
  ("version", .version)]

/-- The options by their letters. -/
def letters : List (Char × Opt) := [('c', .config), ('h', .help), ('V', .version)]

/-- The option takes a value. -/
def Opt.takesValue : Opt → Bool
  | .config | .logLevel | .logFormat | .pidFile => true
  | _ => false

/-- What has been read of the arguments. -/
structure Progress where
  /-- What they say. -/
  line : CommandLine
  /-- The options that have been given. -/
  given : List Opt
  /-- An option whose value has not been taken in, and the value if it has been read. -/
  pending : Option (Opt × Option String)

/-- Sets the value of an option. -/
def Opt.set (o : Opt) (v : String) (l : CommandLine) : CommandLine :=
  match o with
  | .config => { l with config := v }
  | .logLevel => { l with logLevel := some v }
  | .logFormat => { l with logFormat := some v }
  | .pidFile => { l with pidFile := some v }
  | .validate => { l with validate := true }
  | .oneshot => { l with oneshot := true }
  | .help => l
  | .version => l

namespace Progress

/-- Takes in an option with its value. -/
def accept (p : Progress) (o : Opt) (v : String) : Except Refusal Progress :=
  if o = .help then .error .displayHelp
  else if o = .version then .error .displayVersion
  else if o ∈ p.given then .error .argumentConflict
  else if o = .config ∧ v.isEmpty then .error .invalidValue
  else .ok { p with line := o.set v p.line, given := o :: p.given, pending := none }

/-- Takes in the value that is pending. -/
def settle (p : Progress) : Except Refusal Progress :=
  match p.pending with
  | none => .ok p
  | some (_, none) => .error .invalidValue
  | some (o, some v) => p.accept o v

/-- Takes in an option that takes no value. -/
def flag (p : Progress) (o : Opt) : Except Refusal Progress := do (← p.settle).accept o ""

/-- Begins an option that takes a value, which may be given with it. -/
def valued (p : Progress) (o : Opt) (v : Option String) : Except Refusal Progress := do
  let p ← p.settle
  match v with
  | some v => p.accept o v
  | none => return { p with pending := some (o, none) }

/-- A long option, after its hyphens. -/
def long (p : Progress) (cs : List Char) : Except Refusal Progress :=
  let (name, rest) := cs.span (· != '=')
  match longNames.lookup (String.ofList name) with
  | none => .error .unknownArgument
  | some o =>
    if o.takesValue then p.valued o (if rest.isEmpty then none else some (String.ofList rest.tail))
    else if rest.isEmpty then p.flag o
    else .error .tooManyValues

/-- Short options, after their hyphen. -/
def short (p : Progress) : List Char → Except Refusal Progress
  | [] => .ok p
  | c :: cs =>
    match letters.lookup c with
    | none => .error .unknownArgument
    | some o =>
      if o.takesValue then
        match cs with
        | [] => p.valued o none
        | '=' :: v => p.valued o (some (String.ofList v))
        | v => p.valued o (some (String.ofList v))
      else do short (← p.flag o) cs

/-- An argument that is not an option: the value that is waited for, if there is one. -/
def word (p : Progress) (arg : String) : Except Refusal Progress :=
  match p.pending with
  | some (o, none) => .ok { p with pending := some (o, some arg) }
  | _ => .error .unknownArgument

/-- Reads arguments. After two hyphens alone nothing is an option. -/
def read (p : Progress) : List String → Except Refusal Progress
  | [] => p.settle
  | arg :: args =>
    match arg.toList with
    | ['-', '-'] => if args.isEmpty then p.settle else .error .unknownArgument
    | '-' :: '-' :: cs => do read (← p.long cs) args
    | '-' :: c :: cs => do read (← p.short (c :: cs)) args
    | _ => do read (← p.word arg) args

end Progress

/-- Reads the arguments, without the name of the program. -/
def read (args : List String) : Except Refusal CommandLine := do
  return (← Progress.read ⟨{}, [], none⟩ args).line

/-- An entry of the help: an option, and what it does, paragraph by paragraph. -/
def helpEntry (option : String) (paragraphs : List String) : String :=
  "  " ++ option ++ "\n" ++ "          \n".intercalate (paragraphs.map fun p => s!"          {p}\n")

/-- What is said of an option that goes before other settings. -/
def precedence : String := "Takes precedence over the config file and environment variables."

/-- What is written when the help is asked for. -/
def help : String := "\n".intercalate [
  "logwarden daemon -- monitor assembly, line sources, report delivery\n",
  "Usage: logwarden-daemon [OPTIONS]\n",
  "Options:\n" ++ helpEntry "-c, --config <CONFIG>"
    ["Path to logwarden.toml configuration file", "[default: /etc/logwarden/logwarden.toml]"],
  helpEntry "    --log-level <LOG_LEVEL>"
    ["Override log level (trace, debug, info, warn, error).", precedence],
  helpEntry "    --log-format <LOG_FORMAT>" ["Override log format (json, pretty).", precedence],
  helpEntry "    --validate"
    ["Validate configuration file, print it with secrets redacted, and exit"],
  helpEntry "    --oneshot"
    ["Stop every monitor at the end of its stream instead of reconnecting"],
  helpEntry "    --pid-file <PID_FILE>"
    ["Override PID file path (takes precedence over config file)"],
  helpEntry "-h, --help" ["Print help (see a summary with '-h')"],
  helpEntry "-V, --version" ["Print version"]]

/-- A configuration with the settings of the command line. -/
def apply (l : CommandLine) (c : Config) : Config :=
  { c with
    general :=
      { c.general with
        logLevel := l.logLevel.getD c.general.logLevel
        logFormat := l.logFormat.getD c.general.logFormat
        pidFile := l.pidFile.getD c.general.pidFile
        oneshot := l.oneshot || c.general.oneshot } }

end CommandLine

end LogWatch

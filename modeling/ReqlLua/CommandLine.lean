import ReqlLua.Generator
import ReqlLua.Settings.Load

/-! The command line of the program: its arguments, what it prints and its exit code. -/

namespace ReqlLua.CommandLine

structure Options where
  config : Option String
  logLevel : Option String
  noColor : Bool
deriving DecidableEq

inductive Command where
  | help
  | version
  | generate (options : Options)
deriving DecidableEq

/-! ### Arguments -/

/-- What starts with a hyphen is no value, unless it is the hyphen alone. -/
def isValue (argument : String) : Bool := argument = "-" || argument.toList.head? != some '-'

/-- What follows the name of an option and an equals sign. -/
def attached? (name argument : String) : Option String :=
  let lead := (name ++ "=").toList
  if lead.isPrefixOf argument.toList then
    some (String.ofList (argument.toList.drop lead.length))
  else none

/-- A path is given once and is not empty. -/
def withConfig (options : Options) (path : String) : Option Options :=
  if options.config.isSome || path.isEmpty then none
  else some { options with config := some path }

/-- A level is given once, if with no name. -/
def withLevel (options : Options) (level : String) : Option Options :=
  if options.logLevel.isSome then none else some { options with logLevel := some level }

/-- An argument that stands alone. The request for help or for the version is met as soon as it is
read. -/
def readSingle (options : Options) (argument : String) : Option (Command ⊕ Options) :=
  if argument = "--no-color" then
    if options.noColor then none else some (.inr { options with noColor := true })
  else if argument = "--help" then some (.inl .help)
  else if argument = "--version" then some (.inl .version)
  else
    match attached? "--config" argument, attached? "--log-level" argument with
    | some path, _ => (withConfig options path).map .inr
    | none, some level => (withLevel options level).map .inr
    | none, none =>
      match argument.toList with
      | '-' :: 'h' :: _ => some (.inl .help)
      | '-' :: 'V' :: _ => some (.inl .version)
      | _ => none

/-- The command that the arguments ask for; none if they are not understood. -/
def readFrom (options : Options) : List String → Option Command
  | [] => some (.generate options)
  | argument :: rest =>
    if argument = "--" then if rest.isEmpty then some (.generate options) else none
    else if argument = "--config" || argument = "--log-level" then
      match rest with
      | [] => none
      | value :: rest =>
        if !isValue value then none
        else
          let grown := if argument = "--config" then withConfig options value
            else withLevel options value
          grown.bind fun options => readFrom options rest
    else
      match readSingle options argument with
      | none => none
      | some (.inl command) => some command
      | some (.inr options) => readFrom options rest

def read (arguments : List String) : Option Command := readFrom ⟨none, none, false⟩ arguments

/-! ### Output -/

def helpText : String :=
  "Generate the Lua ReQL driver from the protocol definition\n\n" ++
  "Usage: reql-codegen [OPTIONS]\n\n" ++
  "Options:\n" ++
  "      --config <CONFIG>        Configuration file layered over the defaults\n" ++
  "      --log-level <LOG_LEVEL>  Log level (trace, debug, info, warn, error) [default: warn]\n" ++
  "      --no-color               Disable colored output\n" ++
  "  -h, --help                   Print help\n" ++
  "  -V, --version                Print version\n"

def versionText : String := "reql-codegen 0.1.0\n"

def usageText : String := "error: arguments not understood\n\nUsage: reql-codegen [OPTIONS]\n"

/-- The end of a run: exit code, standard output and what standard error holds behind the log. -/
structure Outcome where
  code : Nat
  output : String
  errors : String
deriving DecidableEq

/-- A cause below its heading; the lines behind its first line up with it. -/
def indented (lead margin cause : String) : String :=
  "\n" ++ lead ++ ("\n" ++ margin).intercalate ((cause.toList.splitOn '\n').map String.ofList)

/-- What went wrong and why. Several causes are numbered. -/
def errorReport (context : String) (causes : List String) : String :=
  let listed := match causes with
    | [cause] => indented "    " "    " cause
    | several => String.join (several.zipIdx.map fun (cause, index) =>
        indented ("    " ++ toString index ++ ": ") "       " cause)
  "Error: " ++ context ++ "\n\nCaused by:" ++ listed ++ "\n"

/-- A failure and what lies behind it. -/
def causesOf (failure : Failure) : List String :=
  match failure with
  | .file _ fault => [failure.message, fault.message]
  | other => [other.message]

def levelReport (level : String) : String :=
  errorReport ("Invalid log level '" ++ level ++ "'")
    ["error parsing level: expected one of \"error\", \"warn\", \"info\", \"debug\", \"trace\", " ++
      "or a number 1-5"]

/-! ### Running -/

def defaultLevel : String := "warn"

def Options.levelText (options : Options) : String := options.logLevel.getD defaultLevel

/-- The least severe level that is shown, if the text for it is understood. -/
def Options.level? (options : Options) : Option Level := Level.ofText? options.levelText

/-- A line of the log, if the options ask for it. -/
def Options.logLine? (options : Options) (note : Note) : Option String :=
  match options.level? with
  | none => none
  | some limit =>
    if note.event.level.shownAt limit then
      some (if options.noColor then note.plain else note.colored)
    else none

/-- A stage of a run; if it fails, the report says which it was. -/
def stage {α : Type} (context : String) (attempt : Attempt α) : ExceptT String Job α :=
  ExceptT.mk do return (← attempt.run).mapError fun failure => errorReport context (causesOf failure)

def stages (directory : String) (options : Options) : ExceptT String Job Unit := do
  let settings ← stage "Failed to load configuration" (Settings.load directory options.config)
  let generator ← stage "Failed to generate AST fragments" (Generator.prepare settings)
  let paths ← stage "Failed to build templates" generator.run
  paths.forM fun path => stage "Failed to build templates" (Attempt.report (.sourceBuilt path))

/-- A whole run. A level that is not understood ends it before it starts. -/
def generate (directory : String) (options : Options) : Job Outcome :=
  match options.level? with
  | none => return ⟨1, "", levelReport options.levelText⟩
  | some _ => do
    match ← (stages directory options).run with
    | .ok () => return ⟨0, "building source\nbuilding successful\n", ""⟩
    | .error report => return ⟨1, "building source\n", report⟩

/-- What the program does with its arguments. Nothing is done for arguments that are not understood. -/
def answer (directory : String) (arguments : List String) : Job Outcome :=
  match read arguments with
  | none => return ⟨2, "", usageText⟩
  | some .help => return ⟨0, helpText, ""⟩
  | some .version => return ⟨0, versionText, ""⟩
  | some (.generate options) => generate directory options

/-- A line of the log, if the arguments ask for it. -/
def logLine? (arguments : List String) (note : Note) : Option String :=
  match read arguments with
  | some (.generate options) => options.logLine? note
  | _ => none

end ReqlLua.CommandLine

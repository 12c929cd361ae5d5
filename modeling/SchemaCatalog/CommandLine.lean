/-
  `CommandLine` — starting a server from the command line.

  `parse` reads the arguments: options may be given with one letter or by name, their values behind
  them, behind an equals sign or right behind the letter. The value of an option is looked at when the
  next option starts, or at the end, so an argument that does not exist is told first. `start` loads the
  configuration and the schemas and binds the server; what fails is reported with its causes.
-/
import SchemaCatalog.Server

namespace SchemaCatalog.CommandLine

/-! ### Arguments -/

/-- What the arguments ask for. -/
structure Options where
  /-- The path of the configuration. -/
  config : String
  debug : Bool
  jsonLogs : Bool
deriving DecidableEq, Repr, Inhabited

/-- The options that there are. -/
inductive Choice where
  | config
  | debug
  | jsonLogs
  | help
deriving DecidableEq, Repr

namespace Choice

def all : List Choice := [config, debug, jsonLogs, help]

/-- The name behind two dashes. -/
def name : Choice → String
  | config => "config"
  | debug => "debug"
  | jsonLogs => "json-logs"
  | help => "help"

/-- The letter behind one dash. -/
def letter : Choice → Option Char
  | config => some 'c'
  | debug => some 'd'
  | jsonLogs => none
  | help => some 'h'

/-- An option as messages show it, its value included. -/
def shown : Choice → String
  | config => "--config <CONFIG>"
  | choice => "--" ++ choice.name

end Choice

/-- What is wrong with the arguments. -/
inductive UsageError where
  | unexpected (argument : String)
  | unexpectedValue (value : String) (choice : Choice)
  | missingValue (choice : Choice)
  | repeated (choice : Choice)
  | missingConfig
deriving DecidableEq, Repr

/-- The wording of what is wrong, its first line. -/
def UsageError.message : UsageError → String
  | unexpected argument => "error: unexpected argument '" ++ argument ++ "' found"
  | unexpectedValue value choice =>
    "error: unexpected value '" ++ value ++ "' for '" ++ choice.shown ++
      "' found; no more were expected"
  | missingValue choice =>
    "error: a value is required for '" ++ choice.shown ++ "' but none was supplied"
  | repeated choice => "error: the argument '" ++ choice.shown ++ "' cannot be used multiple times"
  | missingConfig => "error: the following required arguments were not provided:"

/-- Why arguments do not lead to options: they ask for help, or something is wrong. -/
inductive Stop where
  | help
  | usage (error : UsageError)
deriving DecidableEq, Repr

/-- The options met so far. -/
structure Seen where
  config : Option String := none
  debug : Bool := false
  jsonLogs : Bool := false
  /-- A path option that has not been looked at yet, with its value if there is one. -/
  pending : Option (Option String) := none
deriving DecidableEq, Repr, Inhabited

namespace Seen

/-- Takes the path of the configuration. -/
def setConfig (seen : Seen) (value : Option String) : Except Stop Seen :=
  match value with
  | none => .error (.usage (.missingValue .config))
  | some path =>
    if seen.config.isSome then .error (.usage (.repeated .config))
    else if path.isEmpty then .error (.usage (.missingValue .config))
    else .ok { seen with config := some path }

/-- Looks at the option that has been left for later. -/
def settle (seen : Seen) : Except Stop Seen :=
  match seen.pending with
  | none => .ok seen
  | some value => { seen with pending := none }.setConfig value

/-- Takes an option, with the value attached to it. -/
def take (seen : Seen) (choice : Choice) (attached : Option String) : Except Stop Seen :=
  match choice, attached with
  | .config, some value => do (← seen.settle).setConfig (some value)
  | .config, none => do return { ← seen.settle with pending := some none }
  | choice, some value => .error (.usage (.unexpectedValue value choice))
  | .debug, none => do
    let seen ← seen.settle
    if seen.debug then throw (.usage (.repeated .debug))
    return { seen with debug := true }
  | .jsonLogs, none => do
    let seen ← seen.settle
    if seen.jsonLogs then throw (.usage (.repeated .jsonLogs))
    return { seen with jsonLogs := true }
  | .help, none => do
    discard seen.settle
    throw .help

/-- The options when all arguments have been read. -/
def finish (seen : Seen) : Except Stop Options := do
  let seen ← seen.settle
  match seen.config with
  | none => throw (.usage .missingConfig)
  | some config => return ⟨config, seen.debug, seen.jsonLogs⟩

/-- Takes an argument that is no option: the value that an option waits for, or one too many. -/
def takeValue (seen : Seen) (argument : String) : Except Stop Seen :=
  match seen.pending with
  | some none => .ok { seen with pending := some (some argument) }
  | _ => .error (.usage (.unexpected argument))

/-- Takes an option given by name, perhaps with a value behind an equals sign. -/
def takeName (seen : Seen) (cs : List Char) : Except Stop Seen :=
  let name := String.ofList (cs.takeWhile (· != '='))
  let attached :=
    match cs.dropWhile (· != '=') with
    | _ :: value => some (String.ofList value)
    | [] => none
  match Choice.all.find? fun c => c.name == name with
  | some choice => seen.take choice attached
  | none => .error (.usage (.unexpected ("--" ++ name)))

/-- Takes options given by letters; behind the letter of an option with a value stands the value. -/
def takeLetters (seen : Seen) : List Char → Except Stop Seen
  | [] => .ok seen
  | c :: rest =>
    match Choice.all.find? fun choice => choice.letter == some c with
    | none => .error (.usage (.unexpected ("-" ++ String.ofList [c])))
    | some .config =>
      match rest with
      | [] => seen.take .config none
      | '=' :: value => seen.take .config (some (String.ofList value))
      | value => seen.take .config (some (String.ofList value))
    | some choice => do takeLetters (← seen.take choice none) rest

end Seen

/-- Reads arguments. Two dashes alone end the options, and no argument may follow them. -/
def parseFrom (seen : Seen) : List String → Except Stop Options
  | [] => seen.finish
  | argument :: rest =>
    match argument.toList with
    | ['-', '-'] =>
      match rest with
      | [] => seen.finish
      | extra :: _ => .error (.usage (.unexpected extra))
    | '-' :: '-' :: cs => do parseFrom (← seen.takeName cs) rest
    | '-' :: c :: cs => do parseFrom (← seen.takeLetters (c :: cs)) rest
    | _ => do parseFrom (← seen.takeValue argument) rest

/-- The options that arguments give. -/
def parse (arguments : List String) : Except Stop Options := parseFrom {} arguments

/-- What is shown to someone who asks for help. -/
def helpText : String :=
  String.intercalate "\n"
    ["JSON-RPC server for schema lookups",
     "",
     "Usage: schema-server [OPTIONS] --config <CONFIG>",
     "",
     "Options:",
     "  -c, --config <CONFIG>  Path to the JSON config file",
     "  -d, --debug            Enable debug logging",
     "      --json-logs        Emit logs as JSON lines",
     "  -h, --help             Print help"]

/-! ### Reports -/

/-- A text with `margin` in front of every line but the first. -/
def indentRest (margin : String) (s : String) : String :=
  String.intercalate ("\n" ++ margin) ((Text.split '\n' s.toList).map String.ofList)

/-- A cause on a line of its own; with a number, if there are several. -/
def causeText (number : Option Nat) (cause : String) : String :=
  match number with
  | none => "    " ++ indentRest "    " cause
  | some n => "    " ++ toString n ++ ": " ++ indentRest "       " cause

/-- The causes one below the other. -/
def causeLines : List String → List String
  | [] => []
  | [cause] => [causeText none cause]
  | causes => causes.mapIdx fun n cause => causeText (some n) cause

/-- The report of something that failed. -/
def report (failed : String) (causes : List String) : String :=
  if causes.isEmpty then "Error: " ++ failed
  else
    String.intercalate "\n"
      (["Error: " ++ failed, "", "Caused by:"] ++ causeLines causes)

/-- The texts of an error and of the one below it. -/
def chain (e : Error) : List String := e.message :: e.cause.toList

/-! ### Starting -/

/-- How a start ends. -/
inductive Outcome where
  | serving (server : Server)
  | help
  | usage (error : UsageError)
  | failed (report : String)

/-- The code that the program ends with. -/
def Outcome.exitCode : Outcome → Nat
  | serving _ | help => 0
  | usage _ => 2
  | failed _ => 1

/-- Loads what the options name and binds the server; the report of what failed, otherwise. -/
def launch (files : Files) (network : Network) (o : Options) : Except String Server := do
  let settings ← (Settings.load files o.config).mapError fun e =>
    report ("loading config " ++ o.config) (chain e)
  let catalog ← (Catalog.load (Source.parse files) settings.schemas).mapError fun e =>
    report "loading schemas" (chain e)
  let plain (e : Error) : String := report e.message e.cause.toList
  let server ← (Server.new files settings catalog).mapError plain
  (server.bind network).mapError plain

/-- Starts a server from arguments. -/
def start (files : Files) (network : Network) (arguments : List String) : Outcome :=
  match parse arguments with
  | .error .help => .help
  | .error (.usage e) => .usage e
  | .ok options =>
    match launch files network options with
    | .ok server => .serving server
    | .error report => .failed report

end SchemaCatalog.CommandLine

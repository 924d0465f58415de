import DotPath.CommandLine.Arguments
import DotPath.Log

set_option autoImplicit false

/-! The commands of the program with their options, and its words of help. -/

namespace DotPath.CommandLine

inductive Command where
  | security
  | check (version : Value)
  | get (source path : Value)
  deriving Repr

/-- What the program is asked to do. Without a command it shows its help. -/
structure Request where
  config : Option String
  currentVersion : Option String
  logLevel : Option String
  command : Option Command
  deriving Repr

def programName : String := "pathmap"

def commandNames : List String := ["security", "check", "get"]

def levelNames : List String := LogLevel.all.map LogLevel.name

def helpOption : OptionSpec := ⟨["-h", "--help"], .help⟩

def grammar : Grammar :=
  { options := [helpOption, ⟨["-v", "--version"], .version⟩,
      ⟨["--config"], .store "config" false []⟩,
      ⟨["--current-version"], .store "current_version" false []⟩,
      ⟨["--log-level"], .store "log_level" true levelNames⟩]
    slots := [.command "cmd" commandNames] }

/-- The places of each command. -/
def commandPlaces : String → List String
  | "check" => ["version"]
  | "get" => ["source", "path"]
  | _ => []

def commandGrammar (command : String) : Grammar :=
  { options := [helpOption], slots := (commandPlaces command).map .single }

/-- The names as a choice between them. -/
def choiceOf (names : List String) : String := "\x7b" ++ String.intercalate "," names ++ "\x7d"

/-- The lines, each with a break at its end. -/
def textOf (ls : List String) : String := String.join (ls.map (· ++ "\n"))

def usage : String :=
  textOf
    ["usage: pathmap [-h] [-v] [--config FILE] [--current-version CURRENT_VERSION]",
      s!"               [--log-level {choiceOf levelNames}]",
      s!"               {choiceOf commandNames} ..."]

def help : String :=
  usage ++
    textOf
      ["",
        "Resolve dot paths in JSON/YAML documents and report migration status",
        "",
        "positional arguments:",
        s!"  {choiceOf commandNames}",
        "    security            show security status of the current version",
        "    check               check migration to a target version",
        "    get                 resolve a dot path in a document and print it as JSON",
        "",
        "options:",
        "  -h, --help            show this help message and exit",
        "  -v, --version         show program's version number and exit",
        "  --config FILE         YAML configuration file",
        "  --current-version CURRENT_VERSION",
        "                        version to report on (default: installed version)",
        s!"  --log-level {choiceOf levelNames}",
        "                        logging level (default: logging.level from config,",
        "                        else WARNING)"]

def commandUsage (command : String) : String :=
  textOf [String.intercalate " " (["usage: pathmap", command, "[-h]"] ++ commandPlaces command)]

/-- What each place of a command stands for. -/
def placeHelp : String → List String
  | "check" => ["  version     target version, e.g. 0.0.4"]
  | "get" =>
    ["  source      file path, or document name under content.base_path",
      "  path        dot path, e.g. data#0.home_team.full_name"]
  | _ => []

def commandHelp (command : String) : String :=
  let places := placeHelp command
  commandUsage command ++
    textOf
      ((if places.isEmpty then [] else "" :: "positional arguments:" :: places) ++
        ["", "options:", "  -h, --help  show this help message and exit"])

/-- Why there is no request: help or version is shown, or the arguments are refused with the usage
of the command. -/
inductive Refusal where
  | help (text : String)
  | version
  | fault (usage name message : String)
  deriving DecidableEq, Repr

def Halt.refusal (helpText usage name : String) : Halt → Refusal
  | help => .help helpText
  | version => .version
  | fault message => .fault usage name message

/-- Reads the arguments of a command. -/
def readCommand : List String → Except Refusal (Option Command × List String)
  | [] => .ok (none, [])
  | command :: args => do
    let r ← ((commandGrammar command).read args).mapError
      (Halt.refusal (commandHelp command) (commandUsage command) s!"{programName} {command}")
    let place (name : String) : Value := (r.places.lookup name).getD .null
    let command : Command :=
      match command with
      | "check" => .check (place "version")
      | "get" => .get (place "source") (place "path")
      | _ => .security
    pure (some command, r.extras)

/-- Reads the request in the arguments of the program. Arguments that nothing takes are refused,
those of the program before those of the command. -/
def Request.read (args : List String) : Except Refusal Request := do
  let r ← (grammar.read args).mapError (Halt.refusal help usage programName)
  let (command, extras) ← readCommand r.command
  match r.extras ++ extras with
  | [] =>
    let option (name : String) := r.options.lookup name
    pure ⟨option "config", option "current_version", option "log_level", command⟩
  | unknown =>
    let shown := String.intercalate " " unknown
    throw (.fault usage programName s!"unrecognized arguments: {shown}")

end DotPath.CommandLine

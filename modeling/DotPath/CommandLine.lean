import DotPath.CommandLine.Request
import DotPath.Folder
import DotPath.Json.Writer
import DotPath.Release.Report
import DotPath.Settings

set_option autoImplicit false

/-!
The program as a function of its arguments and of the files it may read. What it prints, what it
says of errors and its log are one outcome; a problem ends it with status one, and arguments that
are no request with status two.
-/

namespace DotPath.CommandLine

open Text

/-- How a run ends. -/
inductive Ending where
  | finished
  | failed (p : Problem) (cause : Option Cause)
  | crashed (c : Crash)
  | refused (status : Nat)
  deriving DecidableEq, Repr

/-- The exit status of a run; a crash has none of its own. -/
def Ending.status? : Ending → Option Nat
  | finished => some 0
  | failed _ _ => some 1
  | crashed _ => none
  | refused status => some status

structure Outcome where
  ending : Ending
  stdout : String
  stderr : String
  log : List LogEntry
  deriving DecidableEq, Repr

/-- Where log messages of the program itself come from. -/
def origin : String := "pathmap.cli"

/-- Something that was written, and is not empty. -/
def given? (s : Option String) : Option String := s.filter (!·.isEmpty)

variable [Host]

def loadSettings (files : Files) (r : Request) : Action Settings :=
  match given? r.config with
  | some path => Settings.load files (.ofText path)
  | none => Action.ofResult (Settings.ofValue .null)

/-- The text of a value in upper case. -/
def upperText (v : Value) : Except Failure String :=
  (String.ofList ∘ upper) <$> v.told.mapError .crash

/-- The level that log messages must have: the one asked for, or else the one in the settings. -/
def levelFor (r : Request) (s : Settings) : Except Failure LogLevel := do
  let name ←
    match given? r.logLevel with
    | some name => pure name
    | none => do upperText (← s.get (.text "logging.level") (.text LogLevel.warning.name))
  match LogLevel.ofName? name with
  | some level => pure level
  | none =>
    throw (Problem.configInvalid s!"Unknown logging level in configuration: {name}").failure

/-- The version that is reported on. -/
def versionFor (r : Request) (s : Settings) : Except Failure Value :=
  match given? r.currentVersion with
  | some v => .ok (.text v)
  | none => s.get (.text "migration.current_version") (.text Release.installed)

/-- The folder in which documents are looked up by name. -/
def folder (s : Settings) : Except Failure Folder := do
  let base ← s.get (.text "content.base_path") (.text ".")
  let extension ← s.get (.text "content.file_extension") (.text "json")
  Folder.ofValues base extension

/-- The store of the document at a path, or else of that name. -/
def loadSource (files : Files) (s : Settings) (source : Value) : Action Store := do
  let path ← Action.ofResult ((Folder.pathOf source).mapError Failure.crash)
  match ← files.octets? path with
  | some _ => Store.load files path
  | none => do
    let f ← Action.ofResult (folder s)
    let name := source.display
    Action.debug origin s!"Looking up {quotedText name.toList} under {f.base.text}"
    Action.ofResult (Store.build (← f.load files name))

/-- The value as JSON on one line. What is printed is UTF-8, which has no halves of surrogate pairs;
messages are safe from them, since halves are escaped where errors are told. -/
def jsonLine (v : Value) : Except Failure String :=
  match Json.refusal? v with
  | some c => .error (.crash c)
  | none =>
    match proper (Json.write v) with
    | .error fault => .error (.crash (.unencodable fault))
    | .ok cs => .ok (String.ofList cs ++ "\n")

/-- What a command prints. -/
def answer (files : Files) (r : Request) (s : Settings) : Action String := do
  let current ← Action.ofResult (versionFor r s)
  match r.command with
  | some .security => do
    let security ← Action.ofResult (Release.checkSecurity Release.history current)
    pure (security.report ++ "\n")
  | some (.check version) => do
    let migration ← Action.ofResult (Release.checkMigration Release.history current version)
    pure (migration.report ++ "\n")
  | some (.get source path) => do
    let store ← loadSource files s source
    let v ← Action.ofResult (store.resolve path)
    Action.ofResult (jsonLine v)
  | none => pure help

/-- The messages heavy enough for a level. -/
def heavyEnough (level : LogLevel) (log : List LogEntry) : List LogEntry :=
  log.filter fun e => level.weight ≤ e.level.weight

/-- The outcome of a failure. -/
def failed (f : Failure) (log : List LogEntry) : Outcome :=
  match f with
  | .problem p cause => ⟨.failed p cause, "", s!"error: {p.line}\n", log⟩
  | .crash c => ⟨.crashed c, "", "", log⟩

/-- A problem is noted in the log, a crash is not. -/
def noted (f : Failure) (log : List LogEntry) : List LogEntry :=
  match f with
  | .problem _ _ => log ++ [⟨.debug, origin, "Command failed"⟩]
  | .crash _ => log

/-- Runs a request. Nothing is logged before the level is known. -/
def Request.run (files : Files) (r : Request) : Outcome :=
  match (loadSettings files r).outcome.1 with
  | .error f => failed f []
  | .ok s =>
    match levelFor r s with
    | .error f => failed f []
    | .ok level =>
      match (answer files r s).outcome with
      | (.ok out, log) => ⟨.finished, out, "", heavyEnough level log⟩
      | (.error f, log) => failed f (heavyEnough level (noted f log))

/-- The paths that a run looks at, as far as these files tell: that of the settings, and then those
of the document. -/
def consulted (files : Files) (args : List String) : List FilePath :=
  match Request.read args with
  | .error _ => []
  | .ok r =>
    let settings := ((given? r.config).map FilePath.ofText).toList
    match r.command, (loadSettings files r).outcome.1 with
    | some (.get source _), .ok s =>
      let found := ((folder s).map (·.locate source.display)).toOption.toList
      settings ++ (Folder.pathOf source).toOption.toList ++ found
    | _, _ => settings

/-- The outcome of arguments that are no request. -/
def Refusal.outcome : Refusal → Outcome
  | help text => ⟨.refused 0, text, "", []⟩
  | version => ⟨.refused 0, s!"{programName} {Release.installed}\n", "", []⟩
  | fault usage name message => ⟨.refused 2, "", s!"{usage}{name}: error: {message}\n", []⟩

/-- Runs the program. -/
def run (files : Files) (args : List String) : Outcome :=
  match Request.read args with
  | .ok r => r.run files
  | .error refusal => refusal.outcome

end DotPath.CommandLine

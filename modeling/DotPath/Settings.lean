import DotPath.Store.Load

set_option autoImplicit false

/-!
Settings: a mapping of configuration values that are asked for by path. A path that leads to no
value is answered by a default.
-/

namespace DotPath

/-- The mapping that was given, and the store that answers for it. -/
structure Settings where
  source : Value
  store : Store

namespace Settings

/-- Where log messages about settings come from. -/
def origin : String := "pathmap.config"

variable [Host]

/-- The settings of a value; what counts as nothing given is an empty mapping. -/
def ofValue (v : Value) : Except Failure Settings :=
  let source := if v.isNothing then .mapping [] else v
  match Store.build source with
  | .ok store => .ok { source, store }
  | .error (.problem p _) =>
    .error <| .problem (.configInvalid s!"Invalid configuration: {p.message}")
      (some (.problem p.kind))
  | .error (.crash c) => .error (.crash c)

/-- The value of a YAML file of settings; it has to be a mapping. -/
def readYaml (path : FilePath) (text : List Char) : Except Failure Value :=
  match Yaml.read text with
  | .error .malformed =>
    .error (.problem (.configInvalid (Document.invalidYaml path)) (some .yaml))
  | .error (.crash c) => .error (.crash c)
  | .ok v =>
    if v.isNull then .ok (.mapping [])
    else if v.entries?.isSome then .ok v
    else
      .error <| Problem.failure <| .configInvalid
        s!"Configuration file {path.text} must be a YAML mapping, got {v.typeName}"

/-- Loads the settings in a YAML file. -/
def load (files : Files) (path : FilePath) : Action Settings := do
  match ← files.octets? path with
  | none => Action.fail (Problem.configNotFound path.text).failure
  | some octets => do
    let text ← Action.ofResult (Files.textOf octets)
    let v ← Action.ofResult (readYaml path text)
    Action.debug origin s!"Loaded configuration from {path.text}"
    Action.ofResult (ofValue v)

/-- The value that a path leads to. The default stands in for null and for a problem. -/
def get (s : Settings) (path default : Value) : Except Failure Value :=
  match s.store.resolve path with
  | .ok v => .ok (if v.isNull then default else v)
  | .error (.problem _ _) => .ok default
  | .error (.crash c) => .error (.crash c)

/-- The mapping that was given. Texts and octets are no mappings, though a store can be built of
them. -/
def toMapping (s : Settings) : Except Crash Value.Entries :=
  match s.source.entries?, s.source with
  | some entries, _ => .ok entries
  | none, .scalar (.text _) | none, .scalar (.ragged _) =>
    .error (.badValue "dictionary update sequence element #0 has length 1; 2 is required")
  | none, .scalar (.bytes _) =>
    .error (.wrongType "cannot convert dictionary update sequence element #0 to a sequence")
  | none, v => .error (.wrongType s!"'{v.fullTypeName}' object is not iterable")

end Settings

end DotPath

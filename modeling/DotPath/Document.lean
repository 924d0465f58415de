import DotPath.Files
import DotPath.Json.Reader
import DotPath.Text.Blank
import DotPath.Value.Keys
import DotPath.Yaml.Document

set_option autoImplicit false

/-!
Documents in files: YAML if the name says so, and JSON otherwise. A blank document is an empty
mapping, and so is a YAML document without a value.
-/

namespace DotPath.Document

open Text

/-- Where log messages about documents come from. -/
def origin : String := "pathmap.content"

/-- Said of a text that is no YAML. What the reader of YAML says of the fault itself, over several
lines after a colon, is left out: the reader here does not tell its faults apart. -/
def invalidYaml (path : FilePath) : String := s!"Invalid YAML in {path.text}"

variable [Host]

/-- The value of a YAML document, with texts for keys. -/
def readYaml (path : FilePath) (text : List Char) : Except Failure Value :=
  match Yaml.read text with
  | .error .malformed => .error (.problem (.malformedInput (invalidYaml path)) (some .yaml))
  | .error (.crash c) => .error (.crash c)
  | .ok v =>
    if v.isNull then .ok (.mapping []) else v.textKeys.mapError .crash

def readJson (path : FilePath) (text : List Char) : Except Failure Value :=
  let text := codePoints text
  match Json.readText text with
  | .ok v => .ok v
  | .error (.fault reason rest) =>
    let message := Json.faultMessage text reason rest
    .error (.problem (.malformedInput s!"Invalid JSON in {path.text}: {message}") (some .json))
  | .error (.numeral fault) => .error (.crash (.numeral fault))
  | .error .tooDeep => .error (.crash .tooDeep)

/-- The value of a document with the given path. -/
def read (path : FilePath) (text : List Char) : Except Failure Value :=
  if (trim text).isEmpty then .ok (.mapping [])
  else if path.isYaml then readYaml path text
  else readJson path text

/-- Loads the document at a path. -/
def load (files : Files) (path : FilePath) : Action Value := do
  match ← files.octets? path with
  | none => Action.fail (Problem.contentNotFound path.text).failure
  | some octets => do
    Action.debug origin s!"Loading document {path.text}"
    let text ← Action.ofResult (Files.textOf octets)
    Action.ofResult (read path text)

end DotPath.Document

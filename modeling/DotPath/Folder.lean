import DotPath.Document

set_option autoImplicit false

/-!
Folders of documents: a document is found by its name, to which the folder's path and the
extension of its files are added.
-/

namespace DotPath

/-- The extension has no points in front. -/
structure Folder where
  base : FilePath
  extension : String
  deriving DecidableEq, Repr

namespace Folder

/-- The path that a value is. -/
def pathOf (v : Value) : Except Crash FilePath :=
  match v.plainText?, v with
  | some s, _ => .ok (.ofText s)
  | none, .scalar (.bytes _) =>
    .error <| .wrongType <| "argument should be a str object or an os.PathLike object " ++
      "returning str, not <class 'bytes'>"
  | none, v => .error (.wrongType s!"expected str, bytes or os.PathLike object, not {v.typeName}")

/-- The extension that a value is, without the points in front. -/
def extensionOf (v : Value) : Except Crash String :=
  match v.plainText?, v with
  | some s, _ => .ok (String.ofList (s.toList.dropWhile (· == '.')))
  | none, .scalar (.bytes _) => .error (.wrongType "a bytes-like object is required, not 'str'")
  | none, v => .error (.noAttribute s!"'{v.fullTypeName}' object has no attribute 'lstrip'")

def ofValues (base extension : Value) : Except Failure Folder := do
  let base ← (pathOf base).mapError Failure.crash
  let extension ← (extensionOf extension).mapError Failure.crash
  pure { base, extension }

/-- The path of the document of a name. -/
def locate (f : Folder) (name : String) : FilePath :=
  f.base.join (.ofText (name ++ "." ++ f.extension))

/-- The text of the document of a name. -/
def read (f : Folder) (files : Files) (name : String) : Action String := do
  let path := f.locate name
  match ← files.octets? path with
  | none => Action.fail (Problem.contentNotFound path.text).failure
  | some octets => do
    Action.debug Document.origin s!"Reading content {path.text}"
    let text ← Action.ofResult (Files.textOf octets)
    pure (String.ofList text)

/-- What a folder that is called with a name answers. -/
def call (f : Folder) (files : Files) (name : String) : Action String := f.read files name

/-- The value of the document of a name. -/
def load [Host] (f : Folder) (files : Files) (name : String) : Action Value :=
  Document.load files (f.locate name)

end Folder

end DotPath

import DotPath.FilePath
import DotPath.Log
import DotPath.Text.Lines
import DotPath.Text.Utf8

set_option autoImplicit false

/-!
Files as an operation sees them: what stands at a path. A table of files under the working
directory answers for relative paths; nothing is known to stand anywhere else.
-/

namespace DotPath

open Text

/-- What stands at a path: a file, no file, or what the system refuses to look at. -/
inductive FileStatus where
  | file (octets : List UInt8)
  | absent
  | refused (message : String)
  deriving DecidableEq, Repr

/-- What stands at each path. -/
abbrev Files := FilePath → FileStatus

namespace Files

/-- The octets of a file, if there is one at the path. -/
def octets? (files : Files) (path : FilePath) : Action (Option (List UInt8)) :=
  match files path with
  | .file octets => pure (some octets)
  | .absent => pure none
  | .refused message => Action.fail (.crash (.system message))

/-- The text of a file in UTF-8 with one kind of line break. -/
def textOf (octets : List UInt8) : Except Failure (List Char) :=
  match Utf8.decode octets with
  | .ok text => .ok (unifyBreaks text)
  | .error fault => .error (.crash (.undecodable fault))

end Files

/-- An entry of a table of files, under the names on the way to it. -/
structure FileEntry where
  names : List String
  octets : Option (List UInt8)

/-- Files and directories; every directory on the way to an entry is there, too. -/
abbrev FileTable := List FileEntry

namespace FileTable

/-- The most octets that a name may have. -/
def nameLimit : Nat := 255

/-- The most octets that a path may have. -/
def pathLimit : Nat := 4095

def isDirectory (t : FileTable) (names : List String) : Bool :=
  names.isEmpty || t.any fun e =>
    names.isPrefixOf e.names && (names.length < e.names.length || e.octets.isNone)

def octets? (t : FileTable) (names : List String) : Option (List UInt8) :=
  (t.find? (·.names == names)).bind (·.octets)

def octetCount (s : String) : Nat := (Utf8.encode s.toList).length

/-- What the system says of a path with a name that is too long. -/
def tooLong (path : FilePath) : FileStatus :=
  .refused ("[Errno 36] File name too long: " ++ String.ofList (quoted path.text.toList))

/-- Follows names from the directory `here`. -/
def follow (t : FileTable) (path : FilePath) (here : List String) : List String → FileStatus
  | [] => .absent
  | ".." :: rest => if here.isEmpty then .absent else follow t path here.dropLast rest
  | name :: rest =>
    let there := here ++ [name]
    if nameLimit < octetCount name then tooLong path
    else if isDirectory t there then follow t path there rest
    else if rest.isEmpty then ((octets? t there).map .file).getD .absent
    else .absent

/-- What stands at a path. -/
def status (t : FileTable) : Files := fun path =>
  if path.text.toList.contains '\x00' then .absent
  else if pathLimit < octetCount path.text then tooLong path
  else if path.root.isEmpty then follow t path [] path.names
  else .absent

end FileTable

end DotPath

import DotPath.Text.Case
import DotPath.Text.Split

set_option autoImplicit false

/-!
Paths of files: the names on the way to a file, from the root or from the working directory. Empty
names and single points say nothing and are left out; a double point is kept.
-/

namespace DotPath

open Text

/-- `root` is empty, one slash or two. -/
structure FilePath where
  root : String
  names : List String
  deriving DecidableEq, Repr

namespace FilePath

/-- Two slashes at the beginning are a root of their own; three or more are one. -/
def rootOf : List Char → String
  | '/' :: '/' :: '/' :: _ => "/"
  | '/' :: '/' :: _ => "//"
  | '/' :: _ => "/"
  | _ => ""

def isMeaningful (name : List Char) : Bool := name != [] && name != ['.']

def ofText (s : String) : FilePath :=
  { root := rootOf s.toList
    names := ((split '/' s.toList).filter isMeaningful).map String.ofList }

def text (p : FilePath) : String :=
  if p.root.isEmpty && p.names.isEmpty then "." else p.root ++ String.intercalate "/" p.names

/-- The path `q` taken from `p`; a path from the root stands for itself. -/
def join (p q : FilePath) : FilePath :=
  if q.root.isEmpty then { p with names := p.names ++ q.names } else q

/-- The last name. -/
def name (p : FilePath) : String := p.names.getLast?.getD ""

/-- The end of a name from its last point on. A point at either end of the name does not count. -/
def suffixOf (name : List Char) : List Char :=
  let after := (name.reverse.takeWhile (· != '.')).reverse
  if after.isEmpty || name.length ≤ after.length + 1 then [] else '.' :: after

def suffix (p : FilePath) : String := String.ofList (suffixOf p.name.toList)

/-- Does the suffix, in any case, tell YAML? -/
def isYaml (p : FilePath) : Bool :=
  [".yaml", ".yml"].contains (String.ofList (lower p.suffix.toList))

end FilePath

end DotPath

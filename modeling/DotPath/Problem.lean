import DotPath.Text.DecodeFault
import DotPath.Text.EncodeFault
import DotPath.Value.Display

set_option autoImplicit false

/-!
What can go wrong. A *problem* is one of the documented errors: it has a code, a message and
details. A *crash* is any other error that ends an operation.
-/

namespace DotPath

open Number Text

/-- The documented errors; `general` is the one without a meaning of its own. -/
inductive ProblemKind where
  | general
  | malformedInput
  | forbiddenKey
  | emptyPath
  | invalidSegment
  | valueNotFound
  | indexOutOfBounds
  | indexOnNonContainer
  | configNotFound
  | configInvalid
  | contentNotFound
  | versionNotFound
  deriving DecidableEq, Repr

namespace ProblemKind

/-- The kinds that have a code of their own. -/
def coded : List ProblemKind :=
  [malformedInput, forbiddenKey, emptyPath, invalidSegment, valueNotFound, indexOutOfBounds,
    indexOnNonContainer, configNotFound, configInvalid, contentNotFound, versionNotFound]

def all : List ProblemKind := general :: coded

/-- The name by which the error is caught. -/
def name : ProblemKind → String
  | general => "PathMapError"
  | malformedInput => "MalformedInputError"
  | forbiddenKey => "ForbiddenKeyError"
  | emptyPath => "EmptyPathError"
  | invalidSegment => "InvalidSegmentError"
  | valueNotFound => "ValueNotFoundError"
  | indexOutOfBounds => "IndexOutOfBoundsError"
  | indexOnNonContainer => "IndexOnNonContainerError"
  | configNotFound => "ConfigNotFoundError"
  | configInvalid => "ConfigError"
  | contentNotFound => "ContentNotFoundError"
  | versionNotFound => "VersionNotFoundError"

def code : ProblemKind → String
  | general => ""
  | malformedInput => "MALFORMED_INPUT"
  | forbiddenKey => "FORBIDDEN_KEY"
  | emptyPath => "EMPTY_PATH"
  | invalidSegment => "INVALID_SEGMENT"
  | valueNotFound => "VALUE_NOT_FOUND"
  | indexOutOfBounds => "INDEX_OUT_OF_BOUNDS"
  | indexOnNonContainer => "INDEX_ON_NON_CONTAINER"
  | configNotFound => "CONFIG_NOT_FOUND"
  | configInvalid => "CONFIG_INVALID"
  | contentNotFound => "CONTENT_NOT_FOUND"
  | versionNotFound => "VERSION_NOT_FOUND"

/-- All codes. -/
def codes : List String := coded.map code

end ProblemKind

namespace Wording

def forbiddenKey (key : String) : String := s!"Dangerous key \"{key}\" is not allowed"

def emptyPath : String := "PathMap: path cannot be empty"

def invalidSegment (segment : String) : String := s!"Invalid path segment: \"{segment}\""

def valueNotFound (keyName path reason : String) : String :=
  s!"PathMap: can't find '{keyName}' in '{path}': {reason}"

def indexOutOfBounds (index length : String) : String :=
  s!"Index {index} out of bounds (length {length})"

def indexOnNonContainer (keyName kind : String) : String :=
  s!"PathMap: can't index '{keyName}', value is not a container: {kind}"

def configNotFound (path : String) : String := s!"Configuration file not found: {path}"

def contentNotFound (path : String) : String := s!"Content not found: {path}"

def versionNotFound (versions : List String) : String :=
  "Version information not found for " ++ String.intercalate " or " versions

end Wording

/-- A documented error with what it says. -/
inductive Problem where
  | malformedInput (reason : String)
  | forbiddenKey (key : String)
  | emptyPath
  | invalidSegment (segment : String)
  | valueNotFound (keyName path reason : String)
  | indexOutOfBounds (index : Int) (length : Nat)
  | indexOnNonContainer (keyName : String) (kind : Kind)
  | configNotFound (path : String)
  | configInvalid (message : String)
  | contentNotFound (path : String)
  | versionNotFound (versions : List String)
  deriving DecidableEq, Repr

namespace Problem

def kind : Problem → ProblemKind
  | malformedInput _ => .malformedInput
  | forbiddenKey _ => .forbiddenKey
  | emptyPath => .emptyPath
  | invalidSegment _ => .invalidSegment
  | valueNotFound _ _ _ => .valueNotFound
  | indexOutOfBounds _ _ => .indexOutOfBounds
  | indexOnNonContainer _ _ => .indexOnNonContainer
  | configNotFound _ => .configNotFound
  | configInvalid _ => .configInvalid
  | contentNotFound _ => .contentNotFound
  | versionNotFound _ => .versionNotFound

def code (p : Problem) : String := p.kind.code

def message : Problem → String
  | malformedInput reason => reason
  | forbiddenKey key => Wording.forbiddenKey key
  | emptyPath => Wording.emptyPath
  | invalidSegment segment => Wording.invalidSegment segment
  | valueNotFound keyName path reason => Wording.valueNotFound keyName path reason
  | indexOutOfBounds index length =>
    Wording.indexOutOfBounds (String.ofList (decimal index)) (String.ofList (digits length))
  | indexOnNonContainer keyName kind => Wording.indexOnNonContainer keyName kind.name
  | configNotFound path => Wording.configNotFound path
  | configInvalid message => message
  | contentNotFound path => Wording.contentNotFound path
  | versionNotFound versions => Wording.versionNotFound versions

/-- The facts of the error under their names. -/
def details : Problem → List (String × Value)
  | malformedInput reason => [("reason", .text reason)]
  | forbiddenKey key => [("key", .text key)]
  | emptyPath | configInvalid _ => []
  | invalidSegment segment => [("segment", .text segment)]
  | valueNotFound keyName path _ => [("key_name", .text keyName), ("path", .text path)]
  | indexOutOfBounds index length => [("index", .int index), ("length", .int length)]
  | indexOnNonContainer keyName kind =>
    [("key_name", .text keyName), ("actual_kind", .text kind.name)]
  | configNotFound path => [("config_path", .text path)]
  | contentNotFound path => [("content_path", .text path)]
  | versionNotFound versions => [("versions", .texts versions)]

/-- The code in brackets before the message. -/
def line (p : Problem) : String := s!"[{p.code}] {p.message}"

end Problem

/-- An error outside the documented ones. -/
inductive Crash where
  | numeral (fault : NumeralFault)
  | tooLongToWrite
  | undecodable (fault : DecodeFault)
  | unencodable (fault : EncodeFault)
  | calendar (fault : CalendarFault)
  | tooDeep
  | wrongType (message : String)
  | noAttribute (message : String)
  | badValue (message : String)
  | noKey (shown : String)
  | outOfRange (message : String)
  | overflow (message : String)
  | system (message : String)
  deriving DecidableEq, Repr

namespace Crash

/-- The name of the error's class. -/
def name : Crash → String
  | numeral _ | tooLongToWrite | calendar _ | badValue _ => "ValueError"
  | undecodable _ => "UnicodeDecodeError"
  | unencodable _ => "UnicodeEncodeError"
  | tooDeep => "RecursionError"
  | wrongType _ => "TypeError"
  | noAttribute _ => "AttributeError"
  | noKey _ => "KeyError"
  | outOfRange _ => "IndexError"
  | overflow _ => "OverflowError"
  | system _ => "OSError"

def message : Crash → String
  | numeral fault => fault.message
  | tooLongToWrite => Number.tooLongToWrite
  | undecodable fault => fault.message
  | unencodable fault => fault.message
  | calendar fault => fault.message
  | tooDeep => ""
  | noKey m | wrongType m | noAttribute m | badValue m | outOfRange m | overflow m | system m => m

end Crash

/-- The codes are fixed; whoever sets one is told so. -/
def ProblemKind.setCode (_name _code : String) : Crash := .noAttribute "ErrorCodes is immutable"

/-- What a problem arose from. -/
inductive Cause where
  | problem (kind : ProblemKind)
  | json
  | encoding
  | yaml
  deriving DecidableEq, Repr

def Cause.name : Cause → String
  | problem kind => kind.name
  | json => "JSONDecodeError"
  | encoding => "UnicodeDecodeError"
  | yaml => "YAMLError"

inductive Failure where
  | problem (p : Problem) (cause : Option Cause)
  | crash (c : Crash)
  deriving DecidableEq, Repr

/-- A problem that arose from nothing else. -/
def Problem.failure (p : Problem) : Failure := .problem p none

end DotPath

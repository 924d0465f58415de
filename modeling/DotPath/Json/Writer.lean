import DotPath.Value.Showing

set_option autoImplicit false

/-!
Writing JSON on one line, characters outside ASCII as they are, and so are halves of surrogate
pairs. Values that JSON does not have are written as their text, and a mapping's keys as the text of
the scalar. A value that contains itself is refused, and so is one nested too deep.
-/

namespace DotPath

open Text

/-- The scalar's own text in code points; nothing of a text is replaced. -/
def Scalar.points : Scalar → List CodePoint
  | ragged ps => ps
  | s => codePoints s.toText

namespace Json

open Number

/-- The setting of floating-point numbers in JSON. -/
def layout : Layout := { nan := "NaN", infinity := "Infinity" }

/-- Quotes, backslashes and control characters are escaped. -/
def escapeChar (c : Char) : List Char :=
  if c = '"' then ['\\', '"']
  else if c = '\\' then ['\\', '\\']
  else if c = '\n' then ['\\', 'n']
  else if c = '\r' then ['\\', 'r']
  else if c = '\t' then ['\\', 't']
  else if c = '\x08' then ['\\', 'b']
  else if c = '\x0c' then ['\\', 'f']
  else if c.toNat < 0x20 then '\\' :: 'u' :: hex 4 c.toNat
  else [c]

def escapePoint : CodePoint → List CodePoint
  | .char c => codePoints (escapeChar c)
  | .half n => [.half n]

def writeString (ps : List CodePoint) : List CodePoint :=
  .char '"' :: ps.flatMap escapePoint ++ [.char '"']

/-- The text of a scalar used as a key. -/
def keyText : Scalar → List CodePoint
  | .null => codePoints "null".toList
  | .bool b => codePoints (if b then "true".toList else "false".toList)
  | .int n => codePoints (decimal n)
  | .float x => codePoints (layout.text x)
  | s => s.points

def writeScalar : Scalar → List CodePoint
  | .null => codePoints "null".toList
  | .bool b => codePoints (if b then "true".toList else "false".toList)
  | .int n => codePoints (decimal n)
  | .float x => codePoints (layout.text x)
  | s => writeString s.points

/-- The parts with a comma and a blank between them. -/
def writeParts : List (List CodePoint) → List CodePoint := [.char ',', .char ' '].intercalate

variable [Host]

mutual

def write : Value → List CodePoint
  | .scalar s => writeScalar s
  | .list items | .tuple items => .char '[' :: writeParts (writeItems items) ++ [.char ']']
  | .mapping entries => .char '\x7b' :: writeParts (writeEntries entries) ++ [.char '\x7d']
  | .set members => writeString (codePoints (Value.set members).toText)
  | .knot _ body => write body
  | .again _ => []

def writeItems : List Value → List (List CodePoint)
  | [] => []
  | v :: vs => write v :: writeItems vs

def writeEntries : List (Scalar × Value) → List (List CodePoint)
  | [] => []
  | (k, v) :: es =>
    (writeString (keyText k) ++ .char ':' :: .char ' ' :: write v) :: writeEntries es

end

/-- Why a scalar cannot be a key: it is of a kind that keys are not, or too long. -/
def keyRefusal? : Scalar → Option Crash
  | .int n => if exceedsLimit n then some .tooLongToWrite else none
  | .null | .bool _ | .float _ | .text _ | .ragged _ => none
  | s => some (.wrongType s!"keys must be str, int, float, bool or None, not {s.fullTypeName}")

/-- Said of a value inside itself. -/
def circular : Crash := .badValue "Circular reference detected"

mutual

/-- Why a value inside the given knots cannot be written, the first reason in the order of writing;
`depth` is the lists and mappings that may still be opened. -/
def refusalIn? (knots : List Nat) (depth : Nat) : Value → Option Crash
  | .scalar s => if s.isTooLong then some .tooLongToWrite else none
  | .list items | .tuple items =>
    if depth = 0 then some .tooDeep else itemsRefusal? knots (depth - 1) items
  | .mapping entries =>
    if depth = 0 then some .tooDeep else entriesRefusal? knots (depth - 1) entries
  | .set members => if members.any Scalar.isTooLong then some .tooLongToWrite else none
  | .knot label body =>
    if depth = 0 then some .tooDeep
    else if knots.contains label then some circular
    else refusalIn? (label :: knots) depth body
  | .again _ => if depth = 0 then some .tooDeep else some circular

def itemsRefusal? (knots : List Nat) (depth : Nat) : List Value → Option Crash
  | [] => none
  | v :: vs => (refusalIn? knots depth v).or (itemsRefusal? knots depth vs)

def entriesRefusal? (knots : List Nat) (depth : Nat) : List (Scalar × Value) → Option Crash
  | [] => none
  | (k, v) :: es =>
    (keyRefusal? k).or ((refusalIn? knots depth v).or (entriesRefusal? knots depth es))

end

/-- Why a value cannot be written on this machine. -/
def refusal? (v : Value) : Option Crash := refusalIn? [] Host.writingDepth v

end Json

end DotPath

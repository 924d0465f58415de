import DotPath.Host
import DotPath.Json.Fault
import DotPath.Text.Encoding
import DotPath.Value

set_option autoImplicit false

/-!
Reading JSON. Each reader takes the text at its place and returns what it read with the text after
it. Besides standard JSON the words `NaN`, `Infinity` and `-Infinity` are numbers, and strings may
be ragged.
-/

namespace DotPath.Json

open Number Text

abbrev Reader (α : Type) := List CodePoint → Except Stop (α × List CodePoint)

def isJsonBlank (c : Char) : Bool := c == ' ' || c == '\t' || c == '\n' || c == '\r'

def skipBlank (ps : List CodePoint) : List CodePoint := ps.dropWhile (·.is isJsonBlank)

/-- The value of four hexadecimal digits. -/
def hex4? (a b c d : CodePoint) : Option Nat :=
  if [a, b, c, d].all (·.is isHexDigit) then some (ofDigits 16 (plainText [a, b, c, d])) else none

/-- The character of a one-letter escape. -/
def unescape? : Char → Option Char
  | '"' => some '"'
  | '\\' => some '\\'
  | '/' => some '/'
  | 'b' => some '\x08'
  | 'f' => some '\x0c'
  | 'n' => some '\n'
  | 'r' => some '\r'
  | 't' => some '\t'
  | _ => none

/-- A part of a string: a code point as it stands, or the code of an escape. -/
inductive StringPart where
  | point (p : CodePoint)
  | code (n : Nat)
  deriving DecidableEq, Repr

/-- The text of a string's parts; two escapes that are a surrogate pair are one character. -/
def joinParts : List StringPart → List CodePoint
  | [] => []
  | .point p :: ps => p :: joinParts ps
  | [.code m] => [.ofNat m]
  | .code m :: .point p :: ps => .ofNat m :: joinParts (.point p :: ps)
  | .code m :: .code n :: ps =>
    if isHighSurrogate m && isLowSurrogate n then .ofNat (joinSurrogates m n) :: joinParts ps
    else .ofNat m :: joinParts (.code n :: ps)

/-- The parts of a string up to its closing quote; `start` is the text at the opening one. The
digits of an escape must not end the text. -/
def readParts (start : List CodePoint) : Reader (List StringPart)
  | [] => .error (.fault .unterminated start)
  | .char '"' :: rest => .ok ([], rest)
  | [.char '\\'] => .error (.fault .unterminated start)
  | .char '\\' :: .char 'u' :: digits =>
    match digits with
    | a :: b :: c :: d :: after =>
      match hex4? a b c d with
      | some n =>
        if after.isEmpty then .error (.fault .badUnicodeEscape (.char 'u' :: digits))
        else (fun r => (.code n :: r.1, r.2)) <$> readParts start after
      | none => .error (.fault .badUnicodeEscape (.char 'u' :: digits))
    | _ => .error (.fault .badUnicodeEscape (.char 'u' :: digits))
  | .char '\\' :: e :: rest =>
    match e.char?.bind unescape? with
    | some c => (fun r => (.point (.char c) :: r.1, r.2)) <$> readParts start rest
    | none => .error (.fault .badEscape (.char '\\' :: e :: rest))
  | p :: rest =>
    if p.is (·.toNat < 0x20) then .error (.fault .controlCharacter (p :: rest))
    else (fun r => (.point p :: r.1, r.2)) <$> readParts start rest

/-- A string after its opening quote; `start` is the text at that quote. -/
def readString (start : List CodePoint) : Reader Scalar := fun ps =>
  (fun r => (Scalar.ofPoints (joinParts r.1), r.2)) <$> readParts start ps

/-- The digits at the front of a text. -/
def digitRun (ps : List CodePoint) : List Char × List CodePoint :=
  let (ds, rest) := ps.span (·.is isAsciiDigit)
  (plainText ds, rest)

/-- The digits of the whole part: a single zero, or digits that begin with another one. -/
def wholeDigits? (ps : List CodePoint) : Option (List Char × List CodePoint) :=
  match ps with
  | .char '0' :: rest => some (['0'], rest)
  | p :: _ => if p.is isAsciiDigit then some (digitRun ps) else none
  | [] => none

/-- The digits after a point, if there are any. -/
def fraction? : List CodePoint → Option (List Char × List CodePoint)
  | .char '.' :: rest =>
    let (ds, rest) := digitRun rest
    if ds.isEmpty then none else some (ds, rest)
  | _ => none

/-- The sign of an exponent. -/
def exponentSign : List CodePoint → Bool × List CodePoint
  | .char '-' :: rest => (true, rest)
  | .char '+' :: rest => (false, rest)
  | rest => (false, rest)

/-- The power of ten, if there is one. -/
def exponent? : List CodePoint → Option (Int × List CodePoint)
  | p :: rest =>
    let (negative, unsigned) := exponentSign rest
    let (ds, rest) := digitRun unsigned
    if p.is (fun c => c == 'e' || c == 'E') && !ds.isEmpty then
      some (negateIf negative (ofDigits 10 ds), rest)
    else none
  | [] => none

/-- A number; without fraction and exponent it is a whole number. -/
def readNumber? (ps : List CodePoint) : Option (Except Stop (Value × List CodePoint)) :=
  let (negative, unsigned) :=
    match ps with
    | .char '-' :: rest => (true, rest)
    | _ => (false, ps)
  match wholeDigits? unsigned with
  | none => none
  | some (whole, rest) =>
    match fraction? rest, exponent? rest with
    | none, none =>
      if digitLimit < whole.length then some (.error (.numeral (.tooLong whole.length)))
      else some (.ok (.int (negateIf negative (ofDigits 10 whole)), rest))
    | none, some (e, rest) =>
      some (.ok (.scalar (.float (.ofDecimal negative (ofDigits 10 whole) e)), rest))
    | some (ds, rest), _ =>
      let (e, rest) := (exponent? rest).getD (0, rest)
      let significand := ofDigits 10 (whole ++ ds)
      some (.ok (.scalar (.float (.ofDecimal negative significand (e - ds.length))), rest))

/-- The words that stand for values. -/
def words : List (String × Scalar) :=
  [("null", .null), ("true", .bool true), ("false", .bool false), ("NaN", .float (.nan 0)),
    ("Infinity", .float (.infinity false)), ("-Infinity", .float (.infinity true))]

def readWord? (ps : List CodePoint) : Option (Value × List CodePoint) :=
  words.findSome? fun w =>
    if (codePoints w.1.toList).isPrefixOf ps then some (.scalar w.2, ps.drop w.1.length) else none

/-- The elements of an array up to its closing bracket, `element` reading each. The count of
code points left bounds the number of elements. -/
def readElements (element : Reader Value) : Nat → Reader (List Value)
  | 0, ps => .error (.fault .noComma ps)
  | fuel + 1, ps => do
    let (v, rest) ← element ps
    match skipBlank rest with
    | .char ']' :: rest => pure ([v], rest)
    | .char ',' :: rest => do
      let (vs, rest) ← readElements element fuel (skipBlank rest)
      pure (v :: vs, rest)
    | rest => throw (.fault .noComma rest)

/-- The members of an object up to its closing brace, in the order of the text. -/
def readMembers (element : Reader Value) : Nat → Reader (List (Scalar × Value))
  | 0, ps => .error (.fault .noComma ps)
  | fuel + 1, .char '"' :: rest => do
    let (key, rest) ← readString (.char '"' :: rest) rest
    match skipBlank rest with
    | .char ':' :: rest => do
      let (v, rest) ← element (skipBlank rest)
      match skipBlank rest with
      | .char '\x7d' :: rest => pure ([(key, v)], rest)
      | .char ',' :: rest => do
        let (ms, rest) ← readMembers element fuel (skipBlank rest)
        pure ((key, v) :: ms, rest)
      | rest => throw (.fault .noComma rest)
    | rest => throw (.fault .noColon rest)
  | _ + 1, ps => .error (.fault .noKey ps)

/-- What stands between brackets, after the opening one. -/
def readArray (element : Reader Value) : Reader Value := fun ps =>
  match skipBlank ps with
  | .char ']' :: rest => .ok (.list [], rest)
  | rest => do
    let (vs, rest) ← readElements element (rest.length + 1) rest
    pure (.list vs, rest)

/-- What stands between braces, after the opening one. A key that comes again takes the later
value. -/
def readObject (element : Reader Value) : Reader Value := fun ps =>
  match skipBlank ps with
  | .char '\x7d' :: rest => .ok (.mapping [], rest)
  | rest => do
    let (ms, rest) ← readMembers element (rest.length + 1) rest
    pure (.mapping (Table.ofEntries ms), rest)

/-- A value with no more than the given number of brackets open at once. -/
def readValue : Nat → Reader Value
  | _, .char '"' :: rest => do
    let (s, rest) ← readString (.char '"' :: rest) rest
    pure (.scalar s, rest)
  | 0, .char '[' :: _ | 0, .char '\x7b' :: _ => .error .tooDeep
  | depth + 1, .char '[' :: rest => readArray (readValue depth) rest
  | depth + 1, .char '\x7b' :: rest => readObject (readValue depth) rest
  | _, ps =>
    match readWord? ps with
    | some r => .ok r
    | none => (readNumber? ps).getD (.error (.fault .noValue ps))

/-- The value of a whole text with no more than the given number of brackets open at once. -/
def readWithin (limit : Nat) (text : List CodePoint) : Except Stop Value := do
  let (v, rest) ← readValue limit (skipBlank text)
  match skipBlank rest with
  | [] => pure v
  | rest => throw (.fault .extraData rest)

variable [Host]

/-- The value of a whole text, as deep as the machine allows. -/
def read (text : List CodePoint) : Except Stop Value := readWithin Host.readingDepth text

/-- The value of a text that did not come as octets, in which a byte order mark has no place. -/
def readText (text : List CodePoint) : Except Stop Value :=
  if text.head? = some (.char Encoding.mark) then .error (.fault .byteOrderMark text)
  else read text

end DotPath.Json

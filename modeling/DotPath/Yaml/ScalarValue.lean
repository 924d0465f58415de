import DotPath.Text.Base64
import DotPath.Text.Case
import DotPath.Text.Split
import DotPath.Yaml.Cursor
import DotPath.Yaml.Tag
import DotPath.Yaml.Timestamp

set_option autoImplicit false

/-! The values of scalars by their tags. Underscores in numbers do not count. -/

namespace DotPath.Yaml

open Number Text

/-- Said where a number has no first character. -/
def noFirst : Stop := .crash (.outOfRange "string index out of range")

/-- A text without its sign. -/
def dropSign : List CodePoint → Bool × List CodePoint
  | .char '-' :: ps => (true, ps)
  | .char '+' :: ps => (false, ps)
  | ps => (false, ps)

/-- A number without its underscores and its sign. -/
def signedPart (ps : List CodePoint) : Except Stop (Bool × List CodePoint) :=
  match ps.filter (· != .char '_') with
  | [] => .error noFirst
  | plain => .ok (dropSign plain)

def readWhole (base : Nat) (ps : List CodePoint) : Except Stop Int :=
  (readInteger base ps).mapError fun fault => .crash (.numeral fault)

/-- A whole number: with `0b` or `0x` in those bases, else with a leading zero in base eight, else
in base sixty if there are colons, else in base ten. -/
def intValue (text : List CodePoint) : Except Stop Int := do
  let (negative, ps) ← signedPart text
  let n ←
    match ps with
    | [] => throw noFirst
    | [.char '0'] => pure 0
    | .char '0' :: .char 'b' :: ds => readWhole 2 ds
    | .char '0' :: .char 'x' :: ds => readWhole 16 ds
    | .char '0' :: _ => readWhole 8 ps
    | _ => do
      let digits ← (split (.char ':') ps).mapM (readWhole 10)
      pure (digits.foldl (fun n d => n * 60 + d) 0)
  pure (if negative then -n else n)

def readFloat (ps : List CodePoint) : Except Stop Binary64 :=
  match readFloat? ps with
  | some x => .ok x
  | none =>
    let shown := String.ofList (quotedPoints ps)
    .error (.crash (.badValue ("could not convert string to float: " ++ shown)))

/-- The sum of digits in base sixty, the lowest first, `base` being the weight of the first. -/
def sumSixties (sum : Binary64) (base : Nat) : List Binary64 → Except Stop Binary64
  | [] => .ok sum
  | d :: ds =>
    match Binary64.ofInt base with
    | .infinity _ => .error (.crash (.overflow "int too large to convert to float"))
    | weight => sumSixties (sum.add (d.mul weight)) (base * 60) ds

/-- A number with a fraction; what is read but is not a number gets the payload. -/
def floatValue (payload : Nat) (text : List CodePoint) : Except Stop Binary64 := do
  let (negative, ps) ← signedPart (lowerPoints text)
  let signed (x : Binary64) : Binary64 := if negative then x.neg else x
  if ps == codePoints ".nan".toList then pure (.nan 0)
  else if ps == codePoints ".inf".toList then pure (signed (.infinity false))
  else if ps.contains (.char ':') then do
    let digits ← (split (.char ':') ps).mapM readFloat
    let x ← sumSixties (Binary64.zero false) 1 digits.reverse
    pure (signed (x.withPayload payload))
  else do
    let x ← readFloat ps
    pure (signed (x.withPayload payload))

/-- The words of truth values, in lower case. -/
def boolWords : List (String × Bool) :=
  [("yes", true), ("no", false), ("true", true), ("false", false), ("on", true), ("off", false)]

def boolValue (text : List CodePoint) : Except Stop Bool :=
  let word := lowerPoints text
  match boolWords.find? fun w => codePoints w.1.toList == word with
  | some w => .ok w.2
  | none => .error (.crash (.noKey (String.ofList (quotedPoints word))))

def binaryValue (text : List CodePoint) : Except Stop (List UInt8) :=
  match if text.all (·.is (·.toNat < 0x80)) then Base64.decode (plainText text) else none with
  | some octets => .ok octets
  | none => .error .malformed

def timestampValue (text : List CodePoint) : Except Stop Scalar :=
  match Timestamp.parts (plainText text) with
  | some parts => parts.value.mapError fun fault => .crash (.calendar fault)
  | none => .error (.crash (.noAttribute "'NoneType' object has no attribute 'groupdict'"))

/-- The value of a scalar with the given tag. The tags of collections and the marks of merging
and of default values have none. -/
def scalarValue (payload : Nat) (tag : Tag) (text : List CodePoint) : Except Stop Scalar :=
  match tag with
  | .null => .ok .null
  | .bool => .bool <$> boolValue text
  | .int => .int <$> intValue text
  | .float => .float <$> floatValue payload text
  | .binary => .bytes <$> binaryValue text
  | .timestamp => timestampValue text
  | .text => .ok (Scalar.ofPoints text)
  | _ => .error .malformed

end DotPath.Yaml

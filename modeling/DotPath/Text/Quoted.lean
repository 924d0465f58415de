import DotPath.Text.CodePoint
import DotPath.Text.Digit
import DotPath.Text.Printable

set_option autoImplicit false

/-!
Quoted texts and octet strings. A text stands in single quotes unless it holds a single quote
and no double one; the quote, the backslash and whatever has no visible form are escaped.
-/

namespace DotPath.Text

/-- The single quote. -/
def apostrophe : Char := '\x27'

def quoteFor (cs : List Char) : Char :=
  if cs.contains apostrophe && !cs.contains '"' then '"' else apostrophe

/-- The escape of a character by its code point: two, four or eight hexadecimal digits. -/
def codeEscape (n : Nat) : List Char :=
  if n < 0x100 then '\\' :: 'x' :: hex 2 n
  else if n < 0x10000 then '\\' :: 'u' :: hex 4 n
  else '\\' :: 'U' :: hex 8 n

def quotedChar (quote c : Char) : List Char :=
  if c = quote ∨ c = '\\' then ['\\', c]
  else if c = '\t' then ['\\', 't']
  else if c = '\n' then ['\\', 'n']
  else if c = '\r' then ['\\', 'r']
  else if isPrintable c then [c]
  else codeEscape c.toNat

def quoted (cs : List Char) : List Char :=
  let quote := quoteFor cs
  quote :: cs.flatMap (quotedChar quote) ++ [quote]

def quotedPoint (quote : Char) : CodePoint → List Char
  | .char c => quotedChar quote c
  | .half n => codeEscape n

/-- A text that may be ragged in quotes; halves are escaped. -/
def quotedPoints (ps : List CodePoint) : List Char :=
  let quote := quoteFor (plainText ps)
  quote :: ps.flatMap (quotedPoint quote) ++ [quote]

/-- An octet outside the visible ASCII characters is escaped. -/
def quotedOctet (quote : Char) (b : UInt8) : List Char :=
  if b.toNat < 0x7f then quotedChar quote (Char.ofNat b.toNat) else codeEscape b.toNat

/-- Octets are shown as a text marked with the letter `b`. -/
def quotedOctets (bs : List UInt8) : List Char :=
  let quote := quoteFor (bs.map fun b => Char.ofNat b.toNat)
  'b' :: quote :: bs.flatMap (quotedOctet quote) ++ [quote]

end DotPath.Text

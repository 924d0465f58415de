import DotPath.Text.Lines
import DotPath.Number.Integer

set_option autoImplicit false

/-! Faults of JSON text and their places. -/

namespace DotPath.Json

open Number Text

inductive Reason where
  | noValue
  | noKey
  | noColon
  | noComma
  | extraData
  | unterminated
  | controlCharacter
  | badEscape
  | badUnicodeEscape
  | byteOrderMark
  deriving DecidableEq, Repr

def Reason.message : Reason → String
  | noValue => "Expecting value"
  | noKey => "Expecting property name enclosed in double quotes"
  | noColon => "Expecting ':' delimiter"
  | noComma => "Expecting ',' delimiter"
  | extraData => "Extra data"
  | unterminated => "Unterminated string starting at"
  | controlCharacter => "Invalid control character at"
  | badEscape => "Invalid \\escape"
  | badUnicodeEscape => "Invalid \\uXXXX escape"
  | byteOrderMark => "Unexpected UTF-8 BOM (decode using utf-8-sig)"

/-- What stops a reader: a fault of the text, told with the text that begins at its place; a number
with too many digits; too many open brackets. -/
inductive Stop where
  | fault (reason : Reason) (rest : List CodePoint)
  | numeral (fault : NumeralFault)
  | tooDeep
  deriving DecidableEq, Repr

/-- The message of a fault in a text, with line and column from one and position from zero. -/
def faultMessage (text : List CodePoint) (reason : Reason) (rest : List CodePoint) : String :=
  let position := text.length - rest.length
  let before := plainText (text.take position)
  let line := lineAfter before
  let column := columnAfter before
  s!"{reason.message}: line {line} column {column} (char {position})"

end DotPath.Json

set_option autoImplicit false

/-!
Lines of a text: the one line break of a text read from a file, and places by line and column.
-/

namespace DotPath.Text

/-- Turns each of the line breaks `\r\n` and `\r` into `\n`. -/
def unifyBreaks : List Char → List Char
  | [] => []
  | '\r' :: '\n' :: cs => '\n' :: unifyBreaks cs
  | c :: cs => (if c = '\r' then '\n' else c) :: unifyBreaks cs

/-- The line of the place after the given characters, from one. -/
def lineAfter (before : List Char) : Nat := before.count '\n' + 1

/-- The column of the place after the given characters, from one. -/
def columnAfter (before : List Char) : Nat := (before.reverse.takeWhile (· != '\n')).length + 1

end DotPath.Text

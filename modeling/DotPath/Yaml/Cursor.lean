import DotPath.Problem

set_option autoImplicit false

/-!
Places in a YAML text. A cursor holds the text that is left with its distance from the start and
its line and column. The end of the text reads as `U+0000`, which no YAML text contains.
-/

namespace DotPath.Yaml

/-- Why a text has no value: it is no YAML, or reading it breaks off otherwise. -/
inductive Stop where
  | malformed
  | crash (c : Crash)
  deriving DecidableEq, Repr

def endMark : Char := '\x00'

/-- The characters that a YAML text may contain. -/
def isPermitted (c : Char) : Bool :=
  let n := c.toNat
  n = 0x9 || n = 0xa || n = 0xd || (0x20 ≤ n && n ≤ 0x7e) || n = 0x85 || (0xa0 ≤ n && n ≤ 0xd7ff) ||
    (0xe000 ≤ n && n ≤ 0xfffd) || 0x10000 ≤ n

def isBreak (c : Char) : Bool :=
  c == '\n' || c == '\r' || c == '\x85' || c == '\u2028' || c == '\u2029'

def isBreakOrEnd (c : Char) : Bool := isBreak c || c == endMark

/-- Does the character end a word on a line of its own, tabs apart? -/
def isSpaceOrEnd (c : Char) : Bool := c == ' ' || isBreakOrEnd c

def isGapOrEnd (c : Char) : Bool := c == '\t' || isSpaceOrEnd c

def isSpaceOrTab (c : Char) : Bool := c == ' ' || c == '\t'

structure Cursor where
  rest : List Char
  index : Nat
  line : Nat
  column : Nat

namespace Cursor

def start (text : List Char) : Cursor := ⟨text, 0, 0, 0⟩

/-- The character `k` places ahead. -/
def ahead (c : Cursor) (k : Nat) : Char := c.rest[k]?.getD endMark

def next (c : Cursor) : Char := c.rest.headD endMark

def atEnd (c : Cursor) : Bool := c.rest.isEmpty

/-- The place after one character. The break of a line counts once, and a byte order mark takes
no column. -/
def advance (c : Cursor) : Cursor :=
  match c.rest with
  | [] => c
  | ch :: rest =>
    let index := c.index + 1
    if isBreak ch && !(ch == '\r' && rest.head? == some '\n') then ⟨rest, index, c.line + 1, 0⟩
    else if ch == '\ufeff' then ⟨rest, index, c.line, c.column⟩
    else ⟨rest, index, c.line, c.column + 1⟩

def advanceBy : Nat → Cursor → Cursor
  | 0, c => c
  | k + 1, c => advanceBy k c.advance

/-- The longest run of characters of a class, and the place after it. -/
def takeWhile (holds : Char → Bool) (c : Cursor) : List Char × Cursor :=
  let run := c.rest.takeWhile holds
  (run, c.advanceBy run.length)

def skipWhile (holds : Char → Bool) (c : Cursor) : Cursor := (c.takeWhile holds).2

def skipSpaces (c : Cursor) : Cursor := c.skipWhile (· == ' ')

/-- The place after a comment, if one begins here. -/
def skipComment (c : Cursor) : Cursor :=
  if c.next == '#' then c.skipWhile (!isBreak ·) else c

/-- The line break at a place, in its plain form, and the place after it. -/
def takeBreak? (c : Cursor) : Option (Char × Cursor) :=
  match c.rest with
  | '\r' :: '\n' :: _ => some ('\n', c.advanceBy 2)
  | ch :: _ =>
    if isBreak ch then some (if ch.toNat < 0x100 then '\n' else ch, c.advance) else none
  | [] => none

def skipBreak (c : Cursor) : Cursor := ((c.takeBreak?).map (·.2)).getD c

/-- Do three hyphens or three points stand here alone? -/
def atSeparator (c : Cursor) : Bool :=
  match c.rest with
  | '-' :: '-' :: '-' :: _ | '.' :: '.' :: '.' :: _ => isGapOrEnd (c.ahead 3)
  | _ => false

end Cursor

/-- What a reader finds, and the place after it. -/
abbrev Reader (α : Type) := Cursor → Except Stop (α × Cursor)

/-- The rest of a line that should hold nothing but a comment. -/
def endOfLine (c : Cursor) : Except Stop Cursor :=
  let c := c.skipSpaces.skipComment
  if isBreakOrEnd c.next then .ok c.skipBreak else .error .malformed

end DotPath.Yaml

import DotPath.Text.CodePoint
import DotPath.Yaml.Cursor

set_option autoImplicit false

/-!
The three ways of writing a scalar: plain, between quotes, and as an indented block. Lines are
folded: a single break between two lines is a space, and more breaks stand for one less.
-/

namespace DotPath.Yaml

open Number Text

/-- The text of folded lines: what a first break leaves, followed by the breaks after it. -/
def foldBreaks (first : Char) (more : List Char) : List Char :=
  (if first != '\n' then [first] else if more.isEmpty then [' '] else []) ++ more

/-! ### Plain scalars -/

/-- Does the character end a key's colon? Between brackets the marks of a collection do, too. -/
def endsKey (flow : Bool) (c : Char) : Bool :=
  isGapOrEnd c || (flow && ",[]\x7b\x7d".toList.contains c)

/-- The characters of a plain scalar up to a gap, the colon of a key or, between brackets, a mark
of the collection. -/
def plainRun (flow : Bool) : List Char → List Char
  | [] => []
  | c :: rest =>
    if isGapOrEnd c || (c == ':' && endsKey flow (rest.headD endMark)) ||
      (flow && ",?[]\x7b\x7d".toList.contains c) then []
    else c :: plainRun flow rest

/-- The breaks of blank lines; a separator of documents ends them and the scalar. The count bounds
the characters. -/
def blankLines : Nat → Cursor → List Char × Bool × Cursor
  | 0, c => ([], false, c)
  | n + 1, c =>
    if c.next == ' ' then blankLines n c.advance
    else
      match c.takeBreak? with
      | none => ([], false, c)
      | some (b, c) =>
        if c.atSeparator then ([b], true, c)
        else
          let (breaks, separated, c) := blankLines n c
          (b :: breaks, separated, c)

/-- What lies between two parts of a plain scalar. An empty text ends the scalar. -/
structure Gap where
  text : List Char
  broken : Bool
  after : Cursor

def plainGap (c : Cursor) : Gap :=
  let (spaces, c) := c.takeWhile (· == ' ')
  match c.takeBreak? with
  | none => ⟨spaces, false, c⟩
  | some (b, c) =>
    if c.atSeparator then ⟨[], true, c⟩
    else
      let (breaks, separated, c) := blankLines c.rest.length c
      ⟨if separated then [] else foldBreaks b breaks, true, c⟩

/-- The text of a plain scalar; `before` is the gap before it. The scalar goes on over lines that
are indented enough. The count bounds the parts. -/
def plainFrom (flow : Bool) (indent : Int) : Nat → Gap → List Char × Gap
  | 0, gap => ([], gap)
  | n + 1, gap =>
    let c := gap.after
    let run := plainRun flow c.rest
    if c.next == '#' || run.isEmpty then ([], gap)
    else
      let next := plainGap (c.advanceBy run.length)
      if next.text.isEmpty || (!flow && (next.after.column : Int) < indent) then
        (gap.text ++ run, next)
      else
        let (more, last) := plainFrom flow indent n next
        (gap.text ++ run ++ more, last)

/-- A plain scalar, with whether its last gap breaks the line. -/
def readPlain (flow : Bool) (indent : Int) (c : Cursor) : List Char × Bool × Cursor :=
  let (text, last) := plainFrom flow indent (c.rest.length + 1) ⟨[], false, c⟩
  (text, last.broken, last.after)

/-! ### Quoted scalars -/

/-- The breaks of the blank lines inside quotes, where no separator of documents may stand. -/
def quotedBreaks : Nat → Reader (List Char)
  | 0, c => .ok ([], c)
  | n + 1, c =>
    if c.atSeparator then .error .malformed
    else
      let c := c.skipWhile isSpaceOrTab
      match c.takeBreak? with
      | none => .ok ([], c)
      | some (b, c) => do
        let (breaks, c) ← quotedBreaks n c
        pure (b :: breaks, c)

/-- The white space between two words inside quotes. -/
def quotedGap : Reader (List Char) := fun c => do
  let (spaces, c) := c.takeWhile isSpaceOrTab
  if c.atEnd then throw .malformed
  match c.takeBreak? with
  | none => pure (spaces, c)
  | some (b, c) => do
    let (breaks, c) ← quotedBreaks c.rest.length c
    pure (foldBreaks b breaks, c)

/-- The character of a one-letter escape. -/
def unescape? : Char → Option Char
  | '0' => some '\x00'
  | 'a' => some '\x07'
  | 'b' => some '\x08'
  | 't' | '\t' => some '\t'
  | 'n' => some '\n'
  | 'v' => some '\x0b'
  | 'f' => some '\x0c'
  | 'r' => some '\r'
  | 'e' => some '\x1b'
  | ' ' => some ' '
  | '"' => some '"'
  | '\\' => some '\\'
  | '/' => some '/'
  | 'N' => some '\x85'
  | '_' => some '\xa0'
  | 'L' => some '\u2028'
  | 'P' => some '\u2029'
  | _ => none

/-- The count of hexadecimal digits after the letter of an escape. -/
def codeLength? : Char → Option Nat
  | 'x' => some 2
  | 'u' => some 4
  | 'U' => some 8
  | _ => none

/-- The code point of a number, if there is one. -/
def codePointOf (code : Nat) : Except Stop CodePoint :=
  if code < 0x110000 then .ok (.ofNat code)
  else if code < 0x80000000 then
    .error (.crash (.badValue "chr() arg not in range(0x110000)"))
  else .error (.crash (.overflow "Python int too large to convert to C int"))

/-- What an escape stands for, from the place after its backslash. -/
def readEscape : Reader (List CodePoint) := fun c =>
  match unescape? c.next, codeLength? c.next with
  | some ch, _ => .ok ([.char ch], c.advance)
  | none, some n => do
    let ds := c.advance.rest.take n
    if ds.length < n || !ds.all isHexDigit then throw .malformed
    let p ← codePointOf (ofDigits 16 ds)
    pure ([p], c.advance.advanceBy n)
  | none, none =>
    match c.takeBreak? with
    | some (_, c) => (fun r => (codePoints r.1, r.2)) <$> quotedBreaks c.rest.length c
    | none => .error .malformed

/-- Does the character have no meaning of its own inside quotes? -/
def isQuotedPlain (c : Char) : Bool := !(c == '\'' || c == '"' || c == '\\' || isGapOrEnd c)

/-- A scalar in single or double quotes up to its closing one. The count bounds the parts. -/
def quotedFrom (double : Bool) : Nat → Reader (List CodePoint)
  | 0, _ => .error .malformed
  | n + 1, c =>
    let go (text : List CodePoint) (c : Cursor) : Except Stop (List CodePoint × Cursor) := do
      let (more, c) ← quotedFrom double n c
      pure (text ++ more, c)
    let ch := c.next
    if isQuotedPlain ch then
      let (run, c) := c.takeWhile isQuotedPlain
      go (codePoints run) c
    else if ch == '\'' && !double then
      if c.ahead 1 == '\'' then go [.char '\''] (c.advanceBy 2) else .ok ([], c.advance)
    else if ch == '"' && double then .ok ([], c.advance)
    else if ch == '\\' && double then do
      let (text, c) ← readEscape c.advance
      go text c
    else if ch == '\'' || ch == '"' || ch == '\\' then go [.char ch] c.advance
    else do
      let (text, c) ← quotedGap c
      go (codePoints text) c

/-- A quoted scalar from its opening quote. -/
def readQuoted (double : Bool) : Reader (List CodePoint) := fun c =>
  quotedFrom double (c.rest.length + 1) c.advance

/-! ### Block scalars -/

/-- What becomes of the breaks at the end of a block. -/
inductive Chomping where
  | strip
  | clip
  | keep
  deriving DecidableEq, Repr

def chomping? : Char → Option Chomping
  | '+' => some .keep
  | '-' => some .strip
  | _ => none

/-- The depth that a digit of the header sets; zero is none. -/
def readDepth : Reader (Option Nat) := fun c =>
  if isAsciiDigit c.next then
    if c.next == '0' then .error .malformed else .ok (some (digitValue c.next), c.advance)
  else .ok (none, c)

/-- The header of a block: chomping and depth in either order. -/
def readHeader : Reader (Chomping × Option Nat) := fun c => do
  let (result, c) ← match chomping? c.next with
    | some chomping => do
      let (depth, c) ← readDepth c.advance
      pure ((chomping, depth), c)
    | none => do
      let (depth, c) ← readDepth c
      match depth, chomping? c.next with
      | some _, some chomping => pure ((chomping, depth), c.advance)
      | _, _ => pure ((.clip, depth), c)
  if isSpaceOrEnd c.next then pure (result, c) else throw .malformed

/-- The breaks before the first line of a block, and the depth of the deepest of these lines. -/
def leadingLines : Nat → Cursor → List Char × Nat × Cursor
  | 0, c => ([], 0, c)
  | n + 1, c =>
    if c.next == ' ' then
      let c := c.advance
      let (breaks, depth, last) := leadingLines n c
      (breaks, max c.column depth, last)
    else
      match c.takeBreak? with
      | none => ([], 0, c)
      | some (b, c) =>
        let (breaks, depth, c) := leadingLines n c
        (b :: breaks, depth, c)

/-- Skips spaces up to the given column. -/
def skipIndent (indent : Nat) (c : Cursor) : Cursor :=
  c.advanceBy ((c.rest.take (indent - c.column)).takeWhile (· == ' ')).length

/-- The breaks of the blank lines of a block. -/
def blockBreaks (indent : Nat) : Nat → Cursor → List Char × Cursor
  | 0, c => ([], c)
  | n + 1, c =>
    let c := skipIndent indent c
    match c.takeBreak? with
    | none => ([], c)
    | some (b, c) =>
      let (breaks, c) := blockBreaks indent n c
      (b :: breaks, c)

/-- The lines of a block after the given breaks. Folding joins two lines of which neither begins
with white space. -/
def blockLines (folded : Bool) (chomping : Chomping) (indent : Nat) :
    Nat → List Char → Cursor → List Char × Cursor
  | 0, _, c => ([], c)
  | n + 1, breaks, c =>
    let flush := !isSpaceOrTab c.next
    let (line, c) := c.takeWhile (!isBreak ·)
    let (ending, c) :=
      match c.takeBreak? with
      | some (b, c) => ([b], c)
      | none => ([], c)
    let (next, c) := blockBreaks indent c.rest.length c
    let before := breaks ++ line
    if c.column = indent && !c.atEnd then
      let joint :=
        if folded && ending == ['\n'] && flush && !isSpaceOrTab c.next then
          if next.isEmpty then [' '] else []
        else ending
      let (more, c) := blockLines folded chomping indent n next c
      (before ++ joint ++ more, c)
    else
      let tail :=
        match chomping with
        | .strip => []
        | .clip => ending
        | .keep => ending ++ next
      (before ++ tail, c)

/-- A block scalar from its mark on; `least` is the least column of its lines. -/
def readBlock (folded : Bool) (least : Nat) : Reader (List Char) := fun c => do
  let ((chomping, depth), c) ← readHeader c.advance
  let c ← endOfLine c
  let (indent, breaks, c) :=
    match depth with
    | some d =>
      let indent := least + d - 1
      let (breaks, c) := blockBreaks indent c.rest.length c
      (indent, breaks, c)
    | none =>
      let (breaks, deepest, c) := leadingLines c.rest.length c
      (max least deepest, breaks, c)
  if c.column = indent && !c.atEnd then
    pure (blockLines folded chomping indent (c.rest.length + 1) breaks c)
  else pure (if chomping = .keep then breaks else [], c)

end DotPath.Yaml

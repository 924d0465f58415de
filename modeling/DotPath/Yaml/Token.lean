import DotPath.Yaml.Directive
import DotPath.Yaml.Scalar

set_option autoImplicit false

/-!
The tokens of a YAML text. A scalar, a bracket, an alias or a property may turn out to begin a key
when its colon comes; until then it is a *pending key*, one for each level of brackets. Indentation
opens and closes the blocks outside brackets.
-/

namespace DotPath.Yaml

open Text

/-- `stop` is the place where the text can be read no further. -/
inductive Token where
  | directive (d : Directive)
  | documentStart
  | documentEnd
  | blockSequence
  | blockMapping
  | blockEnd
  | flowSequence
  | flowSequenceEnd
  | flowMapping
  | flowMappingEnd
  | dash
  | comma
  | key
  | value
  | alias (name : String)
  | anchor (name : String)
  | tag (word : TagWord)
  | scalar (text : List CodePoint) (plain : Bool)
  | textEnd
  | stop (reason : Stop)
  deriving DecidableEq, Repr

/-- A token that may begin a key. A required one stands where only a key can stand. -/
structure PendingKey where
  number : Nat
  required : Bool
  index : Nat
  line : Nat
  column : Nat

/-- A key has its colon on its own line and not farther off than this. -/
def keyReach : Nat := 1024

def PendingKey.isStale (k : PendingKey) (c : Cursor) : Bool :=
  k.line != c.line || keyReach < c.index - k.index

/-- How far a text has been read. The latest token and the innermost block and bracket come
first. -/
structure Progress where
  cursor : Cursor
  tokens : List Token := []
  count : Nat := 0
  indents : List Nat := []
  key : Option PendingKey := none
  outer : List (Option PendingKey) := []
  keyAllowed : Bool := true

namespace Progress

/-- Is the place between brackets? -/
def flow (p : Progress) : Bool := !p.outer.isEmpty

/-- The column of the innermost block; outside all blocks it lies before the first. -/
def indent (p : Progress) : Int := (p.indents.head?.map Int.ofNat).getD (-1)

def push (p : Progress) (t : Token) : Progress :=
  { p with tokens := t :: p.tokens, count := p.count + 1 }

/-- Puts tokens, the latest first, before the token of the given number. -/
def insert (p : Progress) (number : Nat) (ts : List Token) : Progress :=
  let (after, before) := p.tokens.splitAt (p.count - number)
  { p with tokens := after ++ ts ++ before, count := p.count + ts.length }

def moveTo (p : Progress) (c : Cursor) : Progress := { p with cursor := c }

def allowKey (p : Progress) (allowed : Bool) : Progress := { p with keyAllowed := allowed }

/-- Pushes the token of a single mark. -/
def mark (p : Progress) (t : Token) : Progress := (p.push t).moveTo p.cursor.advance

/-- Gives up a pending key; a required one must not be given up. -/
def giveUp : Option PendingKey → Except Stop (Option PendingKey)
  | some k => if k.required then .error .malformed else .ok none
  | none => .ok none

def dropKey (p : Progress) : Except Stop Progress := do
  let key ← giveUp p.key
  pure { p with key }

/-- Gives up the keys whose colon can no longer come. -/
def dropStale (p : Progress) : Except Stop Progress := do
  let fresh (k : Option PendingKey) : Except Stop (Option PendingKey) :=
    if k.any (·.isStale p.cursor) then giveUp k else .ok k
  let key ← fresh p.key
  let outer ← p.outer.mapM fresh
  pure { p with key, outer }

/-- The next token may begin a key, if one may stand here. -/
def saveKey (p : Progress) : Except Stop Progress :=
  let c := p.cursor
  if p.keyAllowed then do
    let p ← p.dropKey
    let required := !p.flow && p.indent = c.column
    pure { p with key := some ⟨p.count, required, c.index, c.line, c.column⟩ }
  else .ok p

/-- The number of the first token that waits for a colon; without one it is the next token's. -/
def firstPending (p : Progress) : Nat :=
  (p.key :: p.outer).foldl (fun n k => min n ((k.map (·.number)).getD n)) p.count

/-- Closes the blocks that stand to the right of a column. -/
def closeBlocks (p : Progress) (column : Int) : Progress :=
  if p.flow then p
  else
    let closed := (p.indents.takeWhile fun i => column < Int.ofNat i).length
    { p with
      indents := p.indents.drop closed
      tokens := List.replicate closed .blockEnd ++ p.tokens
      count := p.count + closed }

/-- Opens a block at a column, unless the innermost block stands there already. -/
def opensBlock (p : Progress) (column : Nat) : Bool := !p.flow && p.indent < column

/-- Opens a block at the place of a dash, a question mark or a colon. Outside brackets these stand
only where a key may stand. -/
def openBlock (p : Progress) (start : Token) : Except Stop Progress :=
  let column := p.cursor.column
  if !p.flow && !p.keyAllowed then .error .malformed
  else if p.opensBlock column then .ok { p.push start with indents := column :: p.indents }
  else .ok p

/-- Passes spaces, comments and breaks. Outside brackets a key may begin a line. The count bounds
the lines. -/
def skipGap : Nat → Progress → Progress
  | 0, p => p
  | n + 1, p =>
    let c := p.cursor.skipSpaces.skipComment
    match c.takeBreak? with
    | some (_, c) => skipGap n { p with cursor := c, keyAllowed := p.keyAllowed || !p.flow }
    | none => p.moveTo c

/-- A token that stands outside all blocks. -/
def outside (p : Progress) : Except Stop Progress := do
  let p ← (p.closeBlocks (-1)).dropKey
  pure (p.allowKey false)

def finish (p : Progress) : Except Stop Progress := do
  let p ← p.outside
  pure (p.push .textEnd)

def directive (p : Progress) : Except Stop Progress := do
  let p ← p.outside
  let (d, c) ← readDirective p.cursor
  pure ((p.push (.directive d)).moveTo c)

def separator (p : Progress) (t : Token) : Except Stop Progress := do
  let p ← p.outside
  pure ((p.push t).moveTo (p.cursor.advanceBy 3))

def openBracket (p : Progress) (t : Token) : Except Stop Progress := do
  let p ← p.saveKey
  pure (({ p with key := none, outer := p.key :: p.outer }.allowKey true).mark t)

def closeBracket (p : Progress) (t : Token) : Except Stop Progress := do
  let p ← p.dropKey
  match p.outer with
  | [] => throw .malformed
  | key :: outer => pure (({ p with key, outer }.allowKey false).mark t)

def comma (p : Progress) : Except Stop Progress := do
  let p ← (p.allowKey true).dropKey
  pure (p.mark .comma)

def dash (p : Progress) : Except Stop Progress := do
  let p ← if p.flow then pure p else p.openBlock .blockSequence
  let p ← (p.allowKey true).dropKey
  pure (p.mark .dash)

def explicitKey (p : Progress) : Except Stop Progress := do
  let p ← p.openBlock .blockMapping
  let p ← (p.allowKey !p.flow).dropKey
  pure (p.mark .key)

/-- A colon makes the pending key a key, whose block begins where the key does; without one it
stands for an empty key. -/
def colon (p : Progress) : Except Stop Progress := do
  match p.key with
  | some k =>
    let p :=
      if p.opensBlock k.column then
        { p.insert k.number [.key, .blockMapping] with indents := k.column :: p.indents }
      else p.insert k.number [.key]
    pure (({ p with key := none }.allowKey false).mark .value)
  | none => do
    let p ← p.openBlock .blockMapping
    pure ((p.allowKey !p.flow).mark .value)

/-- A token that may begin a key and is read by `read`. -/
def keyed {α : Type} (p : Progress) (read : Reader α) (token : α → Token) :
    Except Stop Progress := do
  let p ← p.saveKey
  let (a, c) ← read p.cursor
  pure (((p.allowKey false).push (token a)).moveTo c)

def block (p : Progress) (folded : Bool) : Except Stop Progress := do
  let p ← (p.allowKey true).dropKey
  let (text, c) ← readBlock folded (max 1 (p.indent + 1).toNat) p.cursor
  pure ((p.push (.scalar (codePoints text) false)).moveTo c)

def quoted (p : Progress) (double : Bool) : Except Stop Progress :=
  p.keyed (readQuoted double) fun text => .scalar text false

def plain (p : Progress) : Except Stop Progress := do
  let p ← p.saveKey
  let (text, broken, c) := readPlain p.flow (p.indent + 1) p.cursor
  pure (((p.allowKey broken).push (.scalar (codePoints text) true)).moveTo c)

/-- Can a plain scalar begin here? -/
def startsPlain (p : Progress) : Bool :=
  let c := p.cursor
  !(isGapOrEnd c.next || "-?:,[]\x7b\x7d#&*!|>'\"%@`".toList.contains c.next) ||
    (!isGapOrEnd (c.ahead 1) &&
      (c.next == '-' || (!p.flow && (c.next == '?' || c.next == ':'))))

/-- Reads the token at the place of the cursor. -/
def token (p : Progress) : Except Stop Progress :=
  let c := p.cursor
  let ch := c.next
  let apart := isGapOrEnd (c.ahead 1)
  if ch == '%' && c.column = 0 then p.directive
  else if c.column = 0 && c.atSeparator then
    p.separator (if ch == '-' then .documentStart else .documentEnd)
  else if ch == '[' then p.openBracket .flowSequence
  else if ch == '\x7b' then p.openBracket .flowMapping
  else if ch == ']' then p.closeBracket .flowSequenceEnd
  else if ch == '\x7d' then p.closeBracket .flowMappingEnd
  else if ch == ',' then p.comma
  else if ch == '-' && apart then p.dash
  else if ch == '?' && (p.flow || apart) then p.explicitKey
  else if ch == ':' && (p.flow || apart) then p.colon
  else if ch == '*' then p.keyed readAnchor .alias
  else if ch == '&' then p.keyed readAnchor .anchor
  else if ch == '!' then p.keyed readTag .tag
  else if ch == '|' && !p.flow then p.block false
  else if ch == '>' && !p.flow then p.block true
  else if ch == '\'' then p.quoted false
  else if ch == '"' then p.quoted true
  else if p.startsPlain then p.plain
  else .error .malformed

/-- Reads what comes next; nothing comes after the end of the text. -/
def step (p : Progress) : Except Stop (Progress × Bool) := do
  let p ← (p.skipGap (p.cursor.rest.length + 1)).dropStale
  let p := p.closeBlocks p.cursor.column
  if p.cursor.atEnd then (·, true) <$> p.finish else (·, false) <$> p.token

/-- The tokens up to the end of the text or to the place where it can be read no further. A token
that waits for its colon there is not yet known for what it is. The count bounds the tokens. -/
def run : Nat → Progress → List Token
  | 0, p => p.tokens.reverse
  | n + 1, p =>
    let stopped (s : Stop) (number : Nat) := p.tokens.reverse.take number ++ [.stop s]
    match p.dropStale with
    | .error s => stopped s p.count
    | .ok p =>
      match p.step with
      | .error s => stopped s p.firstPending
      | .ok (p, true) => p.tokens.reverse
      | .ok (p, false) => run n p

end Progress

/-- The tokens of a text. A byte order mark at its beginning is passed over. -/
def tokens (text : List Char) : List Token :=
  if text.all isPermitted then
    let c := Cursor.start text
    let c := if c.next == '\ufeff' then c.advance else c
    Progress.run (text.length + 1) { cursor := c }
  else [.stop .malformed]

end DotPath.Yaml

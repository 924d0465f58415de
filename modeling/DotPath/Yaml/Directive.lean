import DotPath.Text.Utf8
import DotPath.Yaml.Cursor

set_option autoImplicit false

/-!
The words before a node and before a document: names of anchors, tags with their handles, and
directives.
-/

namespace DotPath.Yaml

open Number Text

/-- What a line that begins with `%` says. Only the first number of a version counts. -/
inductive Directive where
  | version (major : Nat)
  | tag (handle first : String)
  | unknown
  deriving DecidableEq, Repr

/-- A tag as it is written: a handle and what follows it, or the whole tag. -/
structure TagWord where
  handle : Option String
  suffix : String
  deriving DecidableEq, Repr

def isNameChar (c : Char) : Bool := c.isAlphanum || c == '-' || c == '_'

/-- A name of at least one character. -/
def readName : Reader String := fun c =>
  let (name, c) := c.takeWhile isNameChar
  if name.isEmpty then .error .malformed else .ok (String.ofList name, c)

/-- The name of an anchor or alias, from the place of its mark. -/
def readAnchor : Reader String := fun c => do
  let (name, c) ← readName c.advance
  if isGapOrEnd c.next || "?:,]\x7d%@`".toList.contains c.next then pure (name, c)
  else throw .malformed

def isUriChar (c : Char) : Bool := c.isAlphanum || "-;/?:@&=+$,_.!~*'()[]".toList.contains c

/-- The octets of escapes that follow each other. The count bounds them. -/
def uriOctets : Nat → Reader (List UInt8)
  | 0, c => .ok ([], c)
  | n + 1, c =>
    if c.next == '%' then do
      let ds := c.advance.rest.take 2
      if ds.length < 2 || !ds.all isHexDigit then throw .malformed
      let (octets, c) ← uriOctets n (c.advanceBy 3)
      pure (.ofNat (ofDigits 16 ds) :: octets, c)
    else .ok ([], c)

/-- The characters of a tag, escapes read as UTF-8. The count bounds the parts. -/
def uriFrom : Nat → Reader (List Char)
  | 0, c => .ok ([], c)
  | n + 1, c => do
    if c.next == '%' then
      let (octets, c) ← uriOctets c.rest.length c
      let text ← (Utf8.decode octets).mapError fun _ => .malformed
      let (more, c) ← uriFrom n c
      pure (text ++ more, c)
    else
      let (run, c) := c.takeWhile isUriChar
      if run.isEmpty then pure ([], c)
      else
        let (more, c) ← uriFrom n c
        pure (run ++ more, c)

def readUri : Reader String := fun c => do
  if !(c.next == '%' || isUriChar c.next) then throw .malformed
  let (text, c) ← uriFrom (c.rest.length + 1) c
  pure (String.ofList text, c)

/-- A handle: an exclamation mark alone before a space, or a name between two of them. -/
def readHandle : Reader String := fun c =>
  if c.next != '!' then .error .malformed
  else if c.ahead 1 == ' ' then .ok ("!", c.advance)
  else
    let (name, c) := c.advance.takeWhile isNameChar
    if c.next == '!' then .ok ("!" ++ String.ofList name ++ "!", c.advance) else .error .malformed

/-- A tag from the place of its mark. -/
def readTag : Reader TagWord := fun c => do
  let mark := c.ahead 1
  let (tag, c) ←
    if mark == '<' then do
      let (suffix, c) ← readUri (c.advanceBy 2)
      if c.next != '>' then throw .malformed
      pure (⟨none, suffix⟩, c.advance)
    else if isGapOrEnd mark then pure (⟨none, "!"⟩, c.advance)
    else do
      let word := c.advance.rest.takeWhile (!isSpaceOrEnd ·)
      let (handle, c) ← if word.contains '!' then readHandle c else pure ("!", c.advance)
      let (suffix, c) ← readUri c
      pure (⟨some handle, suffix⟩, c)
  if isSpaceOrEnd c.next then pure (tag, c) else throw .malformed

/-- A number of a version. -/
def readVersionNumber : Reader Nat := fun c =>
  let (ds, c) := c.takeWhile isAsciiDigit
  if ds.isEmpty then .error .malformed
  else if digitLimit < ds.length then .error (.crash (.numeral (.tooLong ds.length)))
  else .ok (ofDigits 10 ds, c)

def readVersion : Reader Directive := fun c => do
  let (major, c) ← readVersionNumber c.skipSpaces
  if c.next != '.' then throw .malformed
  let (_, c) ← readVersionNumber c.advance
  if isSpaceOrEnd c.next then pure (.version major, c) else throw .malformed

def readTagDirective : Reader Directive := fun c => do
  let (handle, c) ← readHandle c.skipSpaces
  if c.next != ' ' then throw .malformed
  let (first, c) ← readUri c.skipSpaces
  if isSpaceOrEnd c.next then pure (.tag handle first, c) else throw .malformed

/-- A directive with the rest of its line, from the place of its mark. -/
def readDirective : Reader Directive := fun c => do
  let (name, c) ← readName c.advance
  if !isSpaceOrEnd c.next then throw .malformed
  let (directive, c) ←
    if name == "YAML" then readVersion c
    else if name == "TAG" then readTagDirective c
    else pure (.unknown, c.skipWhile (!isBreak ·))
  let c ← endOfLine c
  pure (directive, c)

end DotPath.Yaml

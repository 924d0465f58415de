import DotPath.Host
import DotPath.Yaml.Tag
import DotPath.Yaml.Token

set_option autoImplicit false

/-!
Nodes: the graph that the tokens of a text write down. An alias is one more way to the node that
its anchor names, also inside that node itself.
-/

namespace DotPath.Yaml

open Text

/-- The number of a node in its graph. -/
abbrev NodeId := Nat

inductive Content where
  | scalar (text : List CodePoint)
  | sequence (items : List NodeId)
  | mapping (entries : List (NodeId × NodeId))
  deriving Inhabited, Repr

structure Node where
  tag : Tag
  content : Content
  deriving Repr

/-- The nodes of a text by their numbers. -/
abbrev Graph := Array Node

namespace Node

structure Source where
  tokens : List Token
  handles : List (String × String)
  anchors : List (String × NodeId)
  nodes : Graph

abbrev Read (α : Type) := StateT Source (Except Stop) α

def refuse {α : Type} : Read α := throw .malformed

/-- Adds a node to the graph. -/
def add (tag : Tag) (content : Content) : Read NodeId := do
  let id := (← get).nodes.size
  modify fun s => { s with nodes := s.nodes.push ⟨tag, content⟩ }
  pure id

/-- What stands where a node is left out. -/
def addBlank : Read NodeId := add .null (.scalar [])

/-- The next token. -/
def peek : Read Token := do
  match (← get).tokens with
  | .stop s :: _ => throw s
  | t :: _ => pure t
  | [] => refuse

def pass : Read Unit := modify fun s => { s with tokens := s.tokens.drop 1 }

/-- Is the next token one of these? -/
def nextIn (ts : List Token) : Read Bool := do pure (ts.contains (← peek))

/-- The handles that need no directive. -/
def standardHandles : List (String × String) := [("!", "!"), ("!!", Tag.family)]

/-- The anchor and the tag of a node, in either order. -/
def properties : Read (Option String × Option TagWord) := do
  match ← peek with
  | .anchor a => do
    pass
    match ← peek with
    | .tag t => do
      pass
      pure (some a, some t)
    | _ => pure (some a, none)
  | .tag t => do
    pass
    match ← peek with
    | .anchor a => do
      pass
      pure (some a, some t)
    | _ => pure (none, some t)
  | _ => pure (none, none)

/-- The whole text of a tag. -/
def tagText (t : TagWord) : Read String := do
  match t.handle with
  | none => pure t.suffix
  | some h =>
    match (← get).handles.lookup h with
    | some first => pure (first ++ t.suffix)
    | none => refuse

/-- The tag of a node whose written tag is missing or says nothing. -/
def tagOr (implied : Tag) : Option String → Tag
  | none => implied
  | some s => if s == "!" then implied else .ofText s

def checkAnchor (name : Option String) : Read Unit := do
  match name with
  | some a => if ((← get).anchors.lookup a).isSome then refuse
  | none => pure ()

def nameAnchor (name : Option String) (id : NodeId) : Read Unit :=
  match name with
  | some n => modify fun s => { s with anchors := (n, id) :: s.anchors }
  | none => pure ()

/-- The node of an alias. -/
def ofAlias (name : String) : Read NodeId := do
  match (← get).anchors.lookup name with
  | some id => pure id
  | none => refuse

/-- The tag of a scalar: without a written one, quoted ones are texts and plain ones are what their
form implies. -/
def scalarTag (tag : Option String) (text : List CodePoint) (plain : Bool) : Tag :=
  tagOr (if plain || tag.isSome then Tag.implied (plainText text) else .text) tag

/-- A node without parts. -/
def addScalar (anchor tag : Option String) (text : List CodePoint) (plain : Bool) :
    Read NodeId := do
  checkAnchor anchor
  let id ← add (scalarTag tag text plain) (.scalar text)
  nameAnchor anchor id
  pure id

variable [Host]

/-- A node with parts, which may already name it. -/
def addCollection (anchor : Option String) (depth : Nat) (tag : Tag) (parts : Read Content) :
    Read NodeId := do
  checkAnchor anchor
  if Host.composingDepth ≤ depth then throw (.crash .tooDeep)
  let id ← add tag (.sequence [])
  nameAnchor anchor id
  let content ← parts
  modify fun s => { s with nodes := s.nodes.setIfInBounds id ⟨tag, content⟩ }
  pure id

/-- Where a node stands: whether it may be a block, and whether a sequence may begin without
indentation. -/
inductive Place where
  | flow
  | block
  | entry
  deriving DecidableEq

mutual

/-- A node at a depth of open collections. The first number bounds the steps. -/
def read : Nat → Nat → Place → Read NodeId
  | 0, _, _ => refuse
  | n + 1, depth, place => do
    if let .alias name ← peek then
      pass
      return ← ofAlias name
    let (anchor, word) ← properties
    let tag ← word.mapM tagText
    let sequence (items : Read (List NodeId)) : Read NodeId :=
      addCollection anchor depth (tagOr .sequence tag) (.sequence <$> items)
    let mapping (entries : Read (List (NodeId × NodeId))) : Read NodeId :=
      addCollection anchor depth (tagOr .mapping tag) (.mapping <$> entries)
    match ← peek with
    | .scalar text plain => do
      pass
      addScalar anchor tag text plain
    | .flowSequence => sequence (do pass; flowItems n (depth + 1) true)
    | .flowMapping => mapping (do pass; flowEntries n (depth + 1) true)
    | t =>
      if t == .dash && place = .entry then sequence (looseItems n (depth + 1))
      else if t == .blockSequence && place != .flow then
        sequence (do pass; blockItems n (depth + 1))
      else if t == .blockMapping && place != .flow then
        mapping (do pass; blockEntries n (depth + 1))
      else if anchor.isSome || tag.isSome then addScalar anchor tag [] true
      else refuse

/-- A node that is left out before one of the given tokens. -/
def readPart : Nat → Nat → Place → List Token → Read NodeId
  | 0, _, _, _ => refuse
  | n + 1, depth, place, ends => do
    if ← nextIn ends then addBlank else read n depth place

/-- The value after a key, if there is a colon. -/
def readValue : Nat → Nat → Place → List Token → Read NodeId
  | 0, _, _, _ => refuse
  | n + 1, depth, place, ends => do
    if (← peek) == .value then
      pass
      readPart n depth place ends
    else addBlank

/-- The items of a block sequence. -/
def blockItems : Nat → Nat → Read (List NodeId)
  | 0, _ => refuse
  | n + 1, depth => do
    match ← peek with
    | .dash => do
      pass
      let item ← readPart n depth .block [.dash, .blockEnd]
      (item :: ·) <$> blockItems n depth
    | .blockEnd => do
      pass
      pure []
    | _ => refuse

/-- The items of a sequence in a mapping that is not indented more than its key. -/
def looseItems : Nat → Nat → Read (List NodeId)
  | 0, _ => refuse
  | n + 1, depth => do
    match ← peek with
    | .dash => do
      pass
      let item ← readPart n depth .block [.dash, .key, .value, .blockEnd]
      (item :: ·) <$> looseItems n depth
    | _ => pure []

/-- The entries of a block mapping. -/
def blockEntries : Nat → Nat → Read (List (NodeId × NodeId))
  | 0, _ => refuse
  | n + 1, depth => do
    let ends : List Token := [.key, .value, .blockEnd]
    match ← peek with
    | .key => do
      pass
      let key ← readPart n depth .entry ends
      let value ← readValue n depth .entry ends
      ((key, value) :: ·) <$> blockEntries n depth
    | .blockEnd => do
      pass
      pure []
    | _ => refuse

/-- The items between square brackets; a key among them begins a mapping of one entry. -/
def flowItems : Nat → Nat → Bool → Read (List NodeId)
  | 0, _, _ => refuse
  | n + 1, depth, first => do
    if (← peek) == .flowSequenceEnd then
      pass
      return []
    if !first then
      if (← peek) == .comma then pass else refuse
    match ← peek with
    | .flowSequenceEnd => do
      pass
      pure []
    | .key => do
      pass
      let key ← readPart n (depth + 1) .flow [.value, .comma, .flowSequenceEnd]
      let value ← readValue n (depth + 1) .flow [.comma, .flowSequenceEnd]
      let item ← add .mapping (.mapping [(key, value)])
      (item :: ·) <$> flowItems n depth false
    | _ => do
      let item ← read n depth .flow
      (item :: ·) <$> flowItems n depth false

/-- The entries between braces; a node without a colon is a key without a value. -/
def flowEntries : Nat → Nat → Bool → Read (List (NodeId × NodeId))
  | 0, _, _ => refuse
  | n + 1, depth, first => do
    if (← peek) == .flowMappingEnd then
      pass
      return []
    if !first then
      if (← peek) == .comma then pass else refuse
    match ← peek with
    | .flowMappingEnd => do
      pass
      pure []
    | .key => do
      pass
      let key ← readPart n depth .flow [.value, .comma, .flowMappingEnd]
      let value ← readValue n depth .flow [.comma, .flowMappingEnd]
      ((key, value) :: ·) <$> flowEntries n depth false
    | _ => do
      let key ← read n depth .flow
      let value ← addBlank
      ((key, value) :: ·) <$> flowEntries n depth false

end

/-- The directives before a document: no handle and no version twice, and the first version. The
first number bounds them. -/
def readDirectives : Nat → Bool → List (String × String) → Read (List (String × String))
  | 0, _, handles => pure handles
  | n + 1, versioned, handles => do
    match ← peek with
    | .directive d => do
      pass
      match d with
      | .version major =>
        if versioned || major != 1 then refuse else readDirectives n true handles
      | .tag handle first =>
        if (handles.lookup handle).isSome then refuse
        else readDirectives n versioned ((handle, first) :: handles)
      | .unknown => readDirectives n versioned handles
    | _ => pure handles

/-- The directives and the mark that begin a document. -/
def beginDocument : Read Unit := do
  let handles ← readDirectives ((← get).tokens.length + 1) false []
  modify fun s => { s with handles := handles ++ standardHandles }
  if (← peek) == .documentStart then pass else refuse

/-- Nothing but marks of its end may follow the only document. -/
def endDocument : Read Unit := do
  let _ ← peek
  modify fun s => { s with tokens := s.tokens.dropWhile (· == .documentEnd) }
  if (← peek) != .textEnd then
    beginDocument
    refuse

/-- The root of the only document, if there is one. -/
def readDocument : Read (Option NodeId) := do
  let count := (← get).tokens.length
  let root ← match ← peek with
    | .textEnd => return none
    | .directive _ | .documentStart => do
      beginDocument
      if (← peek) matches .directive _ | .documentStart | .documentEnd | .textEnd then addBlank
      else read (4 * count) 0 .block
    | _ => read (4 * count) 0 .block
  endDocument
  pure (some root)

end Node

/-- The graph of the only document of a text, with its root. -/
def Graph.ofText [Host] (text : List Char) : Except Stop (Option NodeId × Graph) := do
  let (root, source) ← Node.readDocument.run ⟨tokens text, Node.standardHandles, [], #[]⟩
  pure (root, source.nodes)

end DotPath.Yaml

import DotPath.Table
import DotPath.Yaml.Merge
import DotPath.Yaml.ScalarValue

set_option autoImplicit false

/-!
Objects: what the nodes of a graph stand for, each node for one. Scalars are read when they are
met, and the parts of collections later, in the order in which the collections were met. Of several
faults the one that is met first is told.
-/

namespace DotPath.Yaml

open Text

/-- A scalar, or the collection of a node. -/
inductive Part where
  | scalar (s : Scalar)
  | object (id : NodeId)
  deriving Repr

/-- The parts of a collection. -/
inductive Body where
  | list (items : List Part)
  | pairs (items : List (Part × Part))
  | mapping (entries : List (Scalar × Part))
  | set (members : List Scalar)
  deriving Repr

/-- What has been built: the parts of nodes that were met, the collections in the order in which
they were met, and what is in them. -/
structure Building where
  graph : Graph
  met : Array (Option Part)
  waiting : Array NodeId := #[]
  bodies : Array (Option Body)

abbrev Build (α : Type) := StateT Building (Except Stop) α

/-- The tags of values with parts. -/
def Tag.hasParts : Tag → Bool
  | sequence | mapping | set | orderedMap | pairs => true
  | _ => false

/-- Does the tag tell how to read a scalar? -/
def Tag.isReadable : Tag → Bool
  | null | bool | int | float | binary | timestamp | text => true
  | _ => false

/-- The text of a scalar, or of the default value of a mapping. The number bounds the mappings that
lie in one another; a default value that is its own has no end of them. -/
def Graph.scalarText (g : Graph) : Nat → NodeId → Except Stop (List CodePoint)
  | 0, _ => .error (.crash .tooDeep)
  | n + 1, id =>
    match g.content? id with
    | some (.scalar text) => .ok text
    | some (.mapping entries) =>
      match entries.find? fun e => g.hasTag .value e.1 with
      | some e => g.scalarText n e.2
      | none => .error .malformed
    | _ => .error .malformed

namespace Build

variable [Host]

def malformed {α : Type} : Build α := throw .malformed

/-- The scalar of a node; a timestamp must not be the default value of a mapping. -/
def scalarOf (id : NodeId) (node : Node) : Build Scalar := do
  if !node.tag.isReadable then malformed
  let g := (← get).graph
  let text ← g.scalarText (Host.defaultDepth + 1) id
  match node.tag, node.content with
  | .timestamp, .mapping _ =>
    throw (.crash (.wrongType "expected string or bytes-like object, got 'list'"))
  | tag, _ => scalarValue (id + 1) tag text

def meet (id : NodeId) (part : Part) : Build Unit :=
  modify fun b => { b with met := b.met.setIfInBounds id (some part) }

/-- What a node stands for. A collection is met now and gets its parts later. -/
def partOf (id : NodeId) : Build Part := do
  let b ← get
  match b.met[id]?.join, b.graph[id]? with
  | some part, _ => pure part
  | none, none => malformed
  | none, some node =>
    if node.tag.hasParts then
      meet id (.object id)
      modify fun b => { b with waiting := b.waiting.push id }
      pure (.object id)
    else
      let part := Part.scalar (← scalarOf id node)
      meet id part
      pure part

/-- The key that a node stands for; a collection is none. -/
def keyOf (id : NodeId) : Build Scalar := do
  match ← partOf id with
  | .scalar s => pure s
  | .object _ => malformed

/-- The entries of a mapping after its merges. -/
def entriesOf (id : NodeId) : Build (List (Scalar × Part)) := do
  match (← get).graph.content? id with
  | some (.mapping _) => do
    let ((), graph) ← (merge id).run (← get).graph
    modify fun b => { b with graph }
    let entries ← (graph.entries id).mapM fun e => do
      let key ← keyOf e.1
      pure (key, ← partOf e.2)
    pure (Table.ofEntries entries)
  | _ => malformed

/-- Mappings of one entry as pairs; merges have no meaning in them. -/
def pairOf (id : NodeId) : Build (Part × Part) := do
  match (← get).graph.content? id with
  | some (.mapping [(k, v)]) => do
    let key ← partOf k
    pure (key, ← partOf v)
  | _ => malformed

/-- The parts of a collection. -/
def bodyOf (id : NodeId) : Build Body := do
  match (← get).graph[id]? with
  | some ⟨.mapping, _⟩ => .mapping <$> entriesOf id
  | some ⟨.set, _⟩ => (Body.set ∘ Table.keys) <$> entriesOf id
  | some ⟨.sequence, .sequence items⟩ => .list <$> items.mapM partOf
  | some ⟨.orderedMap, .sequence items⟩ | some ⟨.pairs, .sequence items⟩ =>
    .pairs <$> items.mapM pairOf
  | _ => malformed

/-- Gives the collections their parts from the one of the given number on. The first number bounds
the collections. -/
def finishFrom : Nat → Nat → Build Unit
  | 0, _ => pure ()
  | n + 1, i => do
    match (← get).waiting[i]? with
    | none => pure ()
    | some id => do
      let body ← bodyOf id
      modify fun b => { b with bodies := b.bodies.setIfInBounds id (some body) }
      finishFrom n (i + 1)

/-- What a node stands for, with all that it leads to. -/
def whole (id : NodeId) : Build Part := do
  let part ← partOf id
  finishFrom ((← get).graph.size + 1) 0
  pure part

end Build

/-- What the root of a graph stands for, with the parts of all collections. -/
def Graph.build [Host] (g : Graph) (root : NodeId) : Except Stop (Part × Array (Option Body)) := do
  let nothing (α : Type) : Array (Option α) := Array.replicate g.size none
  let (part, b) ← (Build.whole root).run
    { graph := g, met := nothing Part, bodies := nothing Body }
  pure (part, b.bodies)

end DotPath.Yaml

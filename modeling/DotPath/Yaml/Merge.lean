import DotPath.Yaml.Node

set_option autoImplicit false

/-!
Merging: an entry whose key is the mark of a merge gives way to the entries of other mappings. A
node is changed where it stands, so that every way to it leads to what it has become. Of a list of
mappings the last comes first, and the entries that a mapping has of its own come after all others.
-/

namespace DotPath.Yaml

/-- The key and the value of an entry of a mapping. -/
abbrev NodeEntry := NodeId × NodeId

/-- An action on the nodes of a graph. -/
abbrev Rework (α : Type) := StateT Graph (Except Stop) α

namespace Graph

def hasTag (g : Graph) (t : Tag) (id : NodeId) : Bool := g[id]?.any (·.tag == t)

def content? (g : Graph) (id : NodeId) : Option Content := g[id]?.map (·.content)

/-- The entries of a mapping; other nodes have none. -/
def entries (g : Graph) (id : NodeId) : List NodeEntry :=
  match g.content? id with
  | some (.mapping entries) => entries
  | _ => []

def setTag (g : Graph) (id : NodeId) (tag : Tag) : Graph := g.modify id ({ · with tag })

def setEntries (g : Graph) (id : NodeId) (entries : List NodeEntry) : Graph :=
  g.modify id ({ · with content := .mapping entries })

/-- A key that is the mark of a default value is a text like others. -/
def settleKeys (g : Graph) (entries : List NodeEntry) : Graph :=
  entries.foldl (fun g e => if g.hasTag .value e.1 then g.setTag e.1 .text else g) g

/-- More than the merges in the graph. -/
def mergeBound (g : Graph) : Nat :=
  g.foldl (fun n node =>
    match node.content with
    | .mapping entries => n + entries.length
    | _ => n) 2

end Graph

/-- The entries that the value of a merge gives, `merge` doing the merges of a mapping first. -/
def givenEntries (merge : NodeId → Rework Unit) (value : NodeId) : Rework (List NodeEntry) := do
  let ofMapping (id : NodeId) : Rework (List NodeEntry) := do
    match (← get).content? id with
    | some (.mapping _) => do
      merge id
      pure ((← get).entries id)
    | _ => throw .malformed
  match (← get).content? value with
  | some (.sequence items) => do
    let given ← items.mapM ofMapping
    pure given.reverse.flatten
  | _ => ofMapping value

/-- Does the merges of a mapping from the entry of the given number on; `given` is what the merges
before have given. The first number bounds the merges, and `depth` how deep they may lie in one
another. -/
def mergeFrom : Nat → Nat → NodeId → Nat → List NodeEntry → Rework Unit
  | 0, _, _, _, _ => pure ()
  | n + 1, depth, id, i, given => do
    if depth = 0 then throw (.crash .tooDeep)
    let g ← get
    let entries := g.entries id
    let own := (entries.drop i).takeWhile fun e => !g.hasTag .merge e.1
    modify (·.settleKeys own)
    let i := i + own.length
    match entries[i]? with
    | none => modify (·.setEntries id (given ++ entries))
    | some (_, value) => do
      modify (·.setEntries id (entries.eraseIdx i))
      let more ← givenEntries (mergeFrom n (depth - 1) · 0 []) value
      mergeFrom n depth id i (given ++ more)

/-- Does the merges of a mapping. -/
def merge [Host] (id : NodeId) : Rework Unit := do
  mergeFrom (← get).mergeBound Host.mergingDepth id 0 []

end DotPath.Yaml

import DotPath.Value
import DotPath.Yaml.Object

set_option autoImplicit false

/-!
The value of a YAML document. A collection that is met again inside itself is a knot, labelled with
the number of its node.
-/

namespace DotPath.Yaml

/-- A value with the labels in it that are not yet tied. -/
structure Loose where
  value : Value
  labels : List Nat

/-- The values that are known to hold no loose labels. -/
abbrev Known := Array (Option Value)

namespace Loose

def ofScalar (s : Scalar) : Loose := ⟨.scalar s, []⟩

/-- The labels of all parts. -/
def labelsOf (parts : List Loose) : List Nat :=
  parts.foldl (fun labels part => part.labels.foldl (fun ls l => ls.insert l) labels) []

/-- A collection with its parts; it is a knot if one of them leads back to it. -/
def collection (id : NodeId) (value : Value) (parts : List Loose) : Loose :=
  let labels := labelsOf parts
  if labels.contains id then ⟨.knot id value, labels.erase id⟩ else ⟨value, labels⟩

/-- The value of a collection whose parts are turned into values by `ofPart`. -/
def ofBody {m : Type → Type} [Monad m] (ofPart : Part → m Loose) (id : NodeId) :
    Body → m Loose
  | .list items => do
    let items ← items.mapM ofPart
    pure (collection id (.list (items.map (·.value))) items)
  | .pairs items => do
    let pairs ← items.mapM fun e => do
      let key ← ofPart e.1
      pure (key, ← ofPart e.2)
    pure (collection id (.list (pairs.map fun p => .tuple [p.1.value, p.2.value]))
      (pairs.flatMap fun p => [p.1, p.2]))
  | .mapping entries => do
    let entries ← entries.mapM fun e => do pure (e.1, ← ofPart e.2)
    pure (collection id (.mapping (entries.map fun e => (e.1, e.2.value))) (entries.map (·.2)))
  | .set members => pure ⟨.set members, []⟩

/-- The value of a part inside the given collections. The number bounds the collections. -/
def ofPart (bodies : Array (Option Body)) : Nat → List NodeId → Part → StateM Known Loose
  | _, _, .scalar s => pure (ofScalar s)
  | 0, _, .object id => pure ⟨.again id, [id]⟩
  | n + 1, around, .object id => do
    if around.contains id then pure ⟨.again id, [id]⟩
    else
      match (← get)[id]?.join, bodies[id]?.join with
      | some value, _ => pure ⟨value, []⟩
      | none, none => pure (ofScalar .null)
      | none, some body => do
        let loose ← ofBody (ofPart bodies n (id :: around)) id body
        if loose.labels.isEmpty then modify (·.setIfInBounds id (some loose.value))
        pure loose

end Loose

/-- The value of the document in a text; a text without one is null. -/
def read [Host] (text : List Char) : Except Stop Value := do
  match ← Graph.ofText text with
  | (none, _) => pure .null
  | (some root, graph) => do
    let (part, bodies) ← graph.build root
    let (loose, _) := (Loose.ofPart bodies (graph.size + 1) [] part).run
      (Array.replicate graph.size none)
    pure loose.value

end DotPath.Yaml

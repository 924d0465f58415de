import DotPath.Value

set_option autoImplicit false

/-!
Values that hold objects. A label that no knot of a value ties may stand for something outside the
value, as an object of a memory; it is then read by what stands there.
-/

namespace DotPath.Value

mutual

/-- The value with what `f` gives for the labels that it does not tie itself. -/
def fill (f : Nat → Value) : Value → Value
  | list items => list (fillItems f items)
  | tuple items => tuple (fillItems f items)
  | mapping entries => mapping (fillEntries f entries)
  | knot label body => knot label (fill (fun l => if l = label then again l else f l) body)
  | again label => f label
  | v => v

def fillItems (f : Nat → Value) : List Value → List Value
  | [] => []
  | v :: vs => fill f v :: fillItems f vs

def fillEntries (f : Nat → Value) : List (Scalar × Value) → List (Scalar × Value)
  | [] => []
  | (k, v) :: es => (k, fill f v) :: fillEntries f es

end

mutual

/-- The labels that the value does not tie itself. -/
def labels : Value → List Nat
  | list items | tuple items => itemsLabels items
  | mapping entries => entriesLabels entries
  | knot label body => body.labels.filter (· ≠ label)
  | again label => [label]
  | _ => []

def itemsLabels : List Value → List Nat
  | [] => []
  | v :: vs => labels v ++ itemsLabels vs

def entriesLabels : List (Scalar × Value) → List Nat
  | [] => []
  | (_, v) :: es => labels v ++ entriesLabels es

end

end DotPath.Value

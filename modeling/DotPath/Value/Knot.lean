import DotPath.Value

set_option autoImplicit false

/-!
Values that contain themselves. A value is endless if it does so at any place; it may still have an
end as far as mappings and lists lead, and is then *loosened* to a value without knots there.
-/

namespace DotPath.Value

mutual

/-- Does the value contain itself at any place? -/
def isEndless : Value → Bool
  | list items | tuple items => itemsEndless items
  | mapping entries => entriesEndless entries
  | knot _ body => body.isEndless
  | again _ => true
  | scalar _ | set _ => false

def itemsEndless : List Value → Bool
  | [] => false
  | v :: vs => v.isEndless || itemsEndless vs

def entriesEndless : List (Scalar × Value) → Bool
  | [] => false
  | (_, v) :: es => v.isEndless || entriesEndless es

end

/-- The value with its knots in the places of their labels, the innermost knot first. -/
def tieAll (knots : List (Nat × Value)) (v : Value) : Value :=
  knots.foldl (fun v k => tie k.1 k.2 v) v

mutual

/-- The value inside the given knots without knots as far as mappings and lists lead. -/
def loosenedIn (knots : List (Nat × Value)) : Value → Value
  | mapping entries => mapping (loosenedEntries knots entries)
  | list items => list (loosenedItems knots items)
  | knot label body => loosenedIn ((label, (knot label body).tieAll knots) :: knots) body
  | v => v.tieAll knots

def loosenedItems (knots : List (Nat × Value)) : List Value → List Value
  | [] => []
  | v :: vs => loosenedIn knots v :: loosenedItems knots vs

def loosenedEntries (knots : List (Nat × Value)) : List (Scalar × Value) → List (Scalar × Value)
  | [] => []
  | (k, v) :: es => (k, loosenedIn knots v) :: loosenedEntries knots es

end

def loosened (v : Value) : Value := v.loosenedIn []

end DotPath.Value

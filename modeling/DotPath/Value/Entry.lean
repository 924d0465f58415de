import DotPath.Problem

set_option autoImplicit false

/-!
Values as keys of mappings, and the setting and removing of the entries of mappings and lists.
-/

namespace DotPath

/-- A tuple used as a key. Its name tells its parts, those in one way that are the same key. -/
def Scalar.ofTuple (parts : List Scalar) : Scalar :=
  match parts.map (·.normal.shown) with
  | [p] => foreign (String.ofList ('(' :: p ++ [',', ')']))
  | ps => foreign (String.ofList ('(' :: commaSeparated ps ++ [')']))

namespace Value

open Number

mutual

/-- The key that a value is. What can change is none. -/
def asKey : Value → Except Crash Scalar
  | scalar s => .ok s
  | tuple items => .ofTuple <$> asKeys items
  | v => .error (.wrongType s!"unhashable type: '{v.typeName}'")

/-- The keys that values are, up to the first that is none. -/
def asKeys : List Value → Except Crash (List Scalar)
  | [] => .ok []
  | v :: vs => do
    let k ← asKey v
    let ks ← asKeys vs
    pure (k :: ks)

end

/-- The position that a key is: a whole number, or a truth value as one or zero. -/
def position? : Value → Option Int
  | scalar (.bool b) => some (if b then 1 else 0)
  | scalar (.int n) => some n
  | _ => none

/-- The place of a position among so many; negative ones count from the end. -/
def placeOf (outside : String) (position : Int) (count : Nat) : Except Crash Nat :=
  let place := if position < 0 then position + count else position
  if !fitsWord position then
    .error (.outOfRange "cannot fit 'int' into an index-sized integer")
  else if 0 ≤ place && place < count then .ok place.toNat
  else .error (.outOfRange outside)

/-- The place in a list that a key is. -/
def listPlace (key : Value) (count : Nat) : Except Crash Nat :=
  match key.position? with
  | some n => placeOf "list assignment index out of range" n count
  | none =>
    .error (.wrongType s!"list indices must be integers or slices, not {key.fullTypeName}")

/-- Does the value have places, though they cannot be changed? -/
def hasPlaces : Value → Bool
  | scalar (.text _) | scalar (.ragged _) | scalar (.bytes _) | scalar (.foreign _) => true
  | tuple _ | set _ => true
  | _ => false

/-- Why a value is not changed at a key. A position is looked at first. -/
def fixedFault (v key : Value) (message atPosition : String) : Crash :=
  match v.hasPlaces, key.position? with
  | true, some n =>
    if fitsWord n then .wrongType atPosition
    else .outOfRange "cannot fit 'int' into an index-sized integer"
  | _, _ => .wrongType message

/-- The mapping or list with a value under a key. -/
def assign (m key value : Value) : Except Crash Value :=
  match m.entries?, m.items?, m with
  | some entries, _, _ => do pure (mapping (Table.put entries (← key.asKey) value))
  | none, some items, list _ => do pure (list (items.set (← listPlace key items.length) value))
  | _, _, _ =>
    let message := s!"'{m.fullTypeName}' object does not support item assignment"
    .error (fixedFault m key message message)

/-- The mapping or list without a key. -/
def remove (m key : Value) : Except Crash Value :=
  match m.entries?, m.items?, m with
  | some entries, _, _ => do
    let k ← key.asKey
    if Table.contains entries k then pure (mapping (Table.erase entries k))
    else throw (.noKey (String.ofList k.shown))
  | none, some items, list _ => do pure (list (items.eraseIdx (← listPlace key items.length)))
  | _, _, _ =>
    .error <| fixedFault m key s!"'{m.fullTypeName}' object does not support item deletion"
      s!"'{m.fullTypeName}' object doesn't support item deletion"

end Value

end DotPath

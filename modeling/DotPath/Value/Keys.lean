import DotPath.Value.Knot
import DotPath.Value.Showing

set_option autoImplicit false

/-!
Mappings with texts for keys. Documents may have mappings with other scalars for keys; these are
turned into their texts, in mappings and lists at every depth that the machine allows. Keys that
come to the same text are one key, in the place of the first and with the value of the last.
-/

namespace DotPath

/-- The text that a scalar is as a key. -/
def Scalar.asTextKey : Scalar → Scalar
  | null => text "null"
  | bool b => text (if b then "true" else "false")
  | ragged ps => ragged ps
  | s => text (String.ofList s.toText)

namespace Value

mutual

/-- The value with the texts of keys for keys, however deep it is. -/
def withTextKeys : Value → Value
  | mapping entries => mapping (Table.ofEntries (entriesWithTextKeys entries))
  | list items => list (itemsWithTextKeys items)
  | v => v

def itemsWithTextKeys : List Value → List Value
  | [] => []
  | v :: vs => v.withTextKeys :: itemsWithTextKeys vs

def entriesWithTextKeys : List (Scalar × Value) → List (Scalar × Value)
  | [] => []
  | (k, v) :: es => (k.asTextKey, v.withTextKeys) :: entriesWithTextKeys es

end

mutual

/-- What is met first that keeps keys from being turned into texts, `depth` being the mappings and
lists that may still be opened: a number too long to be written, or one collection too many. What
contains itself has no end of them. -/
def keyFault? (depth : Nat) : Value → Option Crash
  | mapping entries => if depth = 0 then some .tooDeep else entriesKeyFault? (depth - 1) entries
  | list items => if depth = 0 then some .tooDeep else itemsKeyFault? (depth - 1) items
  | knot _ body => keyFault? depth body
  | again _ => some .tooDeep
  | _ => none

def itemsKeyFault? (depth : Nat) : List Value → Option Crash
  | [] => none
  | v :: vs => (keyFault? depth v).or (itemsKeyFault? depth vs)

def entriesKeyFault? (depth : Nat) : List (Scalar × Value) → Option Crash
  | [] => none
  | (k, v) :: es =>
    if k.isTooLong then some .tooLongToWrite
    else (keyFault? depth v).or (entriesKeyFault? depth es)

end

/-- The value with texts for keys, if nothing keeps them from being turned into texts. -/
def textKeys [Host] (v : Value) : Except Crash Value :=
  match v.keyFault? Host.keyDepth with
  | some c => .error c
  | none => .ok v.loosened.withTextKeys

section

variable [Host]

theorem textKeys_eq_error_iff (v : Value) (c : Crash) :
    v.textKeys = .error c ↔ v.keyFault? Host.keyDepth = some c := by
  unfold textKeys
  split <;> simp_all

theorem textKeys_eq_ok_iff (v w : Value) :
    v.textKeys = .ok w ↔ v.keyFault? Host.keyDepth = none ∧ v.loosened.withTextKeys = w := by
  unfold textKeys
  split <;> simp_all

end

theorem itemsWithTextKeys_eq (vs : List Value) : itemsWithTextKeys vs = vs.map withTextKeys := by
  induction vs with
  | nil => rfl
  | cons v vs ih => simp [itemsWithTextKeys, ih]

theorem entriesWithTextKeys_eq (es : List (Scalar × Value)) :
    entriesWithTextKeys es = es.map fun e => (e.1.asTextKey, e.2.withTextKeys) := by
  induction es with
  | nil => rfl
  | cons e es ih => simp [entriesWithTextKeys, ih]

end Value

end DotPath

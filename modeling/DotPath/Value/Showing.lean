import DotPath.Problem

set_option autoImplicit false

/-!
Why a value cannot be told as text. Whole numbers are written up to a limit of digits, and parts of
values are shown up to a limit of depth.
-/

namespace DotPath

open Number

/-- Is the scalar a whole number too long to be written? -/
def Scalar.isTooLong : Scalar → Bool
  | int n => exceedsLimit n
  | _ => false

namespace Value

mutual

/-- What is met first that cannot be shown in a value inside the given knots, `depth` being the
collections that may still be opened. A knot is not opened inside itself. -/
def showingFaultIn? (knots : List Nat) (depth : Nat) : Value → Option Crash
  | scalar s => if s.isTooLong then some .tooLongToWrite else none
  | list items | tuple items =>
    if depth = 0 then some .tooDeep else itemsShowingFault? knots (depth - 1) items
  | mapping entries =>
    if depth = 0 then some .tooDeep else entriesShowingFault? knots (depth - 1) entries
  | set members =>
    if depth = 0 then some .tooDeep
    else if members.any Scalar.isTooLong then some .tooLongToWrite else none
  | knot label body =>
    if depth = 0 then some .tooDeep
    else if knots.contains label then none
    else showingFaultIn? (label :: knots) depth body
  | again _ => if depth = 0 then some .tooDeep else none

def itemsShowingFault? (knots : List Nat) (depth : Nat) : List Value → Option Crash
  | [] => none
  | v :: vs => (showingFaultIn? knots depth v).or (itemsShowingFault? knots depth vs)

def entriesShowingFault? (knots : List Nat) (depth : Nat) : List (Scalar × Value) → Option Crash
  | [] => none
  | (k, v) :: es =>
    if k.isTooLong then some .tooLongToWrite
    else (showingFaultIn? knots depth v).or (entriesShowingFault? knots depth es)

end

variable [Host]

/-- The value's own text, if it can be told. -/
def told (v : Value) : Except Crash (List Char) :=
  match v.showingFaultIn? [] Host.showingDepth with
  | some c => .error c
  | none => .ok v.toText

end Value

end DotPath

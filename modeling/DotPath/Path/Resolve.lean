import DotPath.Path

set_option autoImplicit false

/-!
The value that a path leads to. The first segment is looked up at the top, and its index counts
only on a sequence; every later segment needs an object to stand on, and its index a container.
-/

namespace DotPath.Path

open Text
open Value (Entries)

/-- Said where there is nothing to go on from. -/
def nothingThere : String := "no value to traverse"

/-- The element of a sequence at an index; below zero and past the end there is none. -/
def element (items : List Value) (index : Int) : Except Problem Value :=
  if h : index < 0 ∨ items.length ≤ index then .error (.indexOutOfBounds index items.length)
  else .ok (items.get ⟨index.toNat, by omega⟩)

/-- The element that an index picks out of a sequence; other values are taken whole. -/
def pick (v : Value) (index : Option Int) : Except Problem Value :=
  match index, v.items? with
  | some i, some items => element items i
  | _, _ => .ok v

/-- The value of the first segment. -/
def enterTop (path : String) (top : Entries) (s : Segment) : Except Problem Value :=
  match Table.get? top (.text s.key) with
  | none => .error (.valueNotFound s.key path nothingThere)
  | some v => pick v s.index

/-- The value of a later segment, from the value before it. -/
def enter (path : String) (v : Value) (s : Segment) : Except Problem Value :=
  if v.isNull then .error (.valueNotFound s.key path nothingThere)
  else
    match v.entries? with
    | none => .error (.valueNotFound s.key path (v.kind.name ++ " has no keys"))
    | some entries =>
      match Table.get? entries (.text s.key) with
      | none => .error (.valueNotFound s.key path "key is missing")
      | some target =>
        if s.index.isSome && !target.kind.isContainer then
          .error (.indexOnNonContainer s.key target.kind)
        else pick target s.index

/-- The value that later segments lead to. -/
def follow (path : String) (v : Value) (segments : List Segment) : Except Problem Value :=
  segments.foldlM (enter path) v

/-- The value that segments lead to from the top. -/
def walk (path : String) (top : Entries) : List Segment → Except Problem Value
  | [] => .ok (.mapping top)
  | s :: ss => do follow path (← enterTop path top s) ss

/-- Resolves a path; it is read whole before the first look-up. -/
def resolve (top : Entries) (path : String) : Except Failure Value := do
  let segments ← parse path
  (walk path top segments).mapError Problem.failure

/-- Resolves what should be a path; anything but a text leads to null. A half of a surrogate pair
is no word character, nor is what replaces it. -/
def resolveAny (top : Entries) (path : Value) : Except Failure Value :=
  match path.plainText? with
  | some p => resolve top p
  | none => .ok .null

/-- Does a text stand in another? -/
def standsIn (part : List CodePoint) : List CodePoint → Bool
  | [] => part.isEmpty
  | p :: ps => part.isPrefixOf (p :: ps) || standsIn part ps

/-- What comes of looking for a key in a value that is no object: a key that seems to be there
cannot be used, and in most values it cannot even be looked for. -/
def topFault (path : String) (top : Value) (key : String) : Failure :=
  let foundOr (found : Bool) (message : String) : Failure :=
    if found then .crash (.wrongType message)
    else (Problem.valueNotFound key path nothingThere).failure
  let isKey (v : Value) : Bool := v.text? == some key
  let inText (text : List CodePoint) : Failure :=
    foundOr (standsIn (codePoints key.toList) text) "string indices must be integers, not 'str'"
  match top with
  | .scalar (.text s) => inText (codePoints s.toList)
  | .scalar (.ragged ps) => inText ps
  | .scalar (.bytes _) => .crash (.wrongType "a bytes-like object is required, not 'str'")
  | .set members => foundOr (members.any (· == .text key)) "'set' object is not subscriptable"
  | v =>
    match v.items? with
    | some items =>
      foundOr (items.any isKey) s!"{v.typeName} indices must be integers or slices, not str"
    | none => .crash (.wrongType s!"argument of type '{v.fullTypeName}' is not iterable")

/-- Resolves what should be a path in any value; only an object has keys. -/
def resolveIn (top path : Value) : Except Failure Value :=
  match top.entries?, path.plainText? with
  | some entries, _ => resolveAny entries path
  | none, none => .ok .null
  | none, some p => do
    match ← parse p with
    | [] => pure top
    | s :: _ => throw (topFault p top s.key)

end DotPath.Path

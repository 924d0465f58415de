import DotPath.Scalar
import DotPath.Table

set_option autoImplicit false

/-!
Values of structured documents and their kinds. Sequences and objects are containers; all others
are leaves to a path. A value may contain itself, and is then looked at one turn at a time.
-/

namespace DotPath

open Text

/-- Entries of a mapping stand in order of first insertion. A `knot` gives its body a label, and
inside the body `again` stands for the knot of that label. -/
inductive Value where
  | scalar (s : Scalar)
  | list (items : List Value)
  | tuple (items : List Value)
  | mapping (entries : List (Scalar × Value))
  | set (members : List Scalar)
  | knot (label : Nat) (body : Value)
  | again (label : Nat)
  deriving Inhabited, Repr

/-- What a path sees of a value. -/
inductive Kind where
  | null
  | boolean
  | number
  | string
  | sequence
  | object
  | other
  deriving DecidableEq, Repr

namespace Kind

def all : List Kind := [null, boolean, number, string, sequence, object, other]

def name : Kind → String
  | null => "null"
  | boolean => "boolean"
  | number => "number"
  | string => "string"
  | sequence => "sequence"
  | object => "object"
  | other => "opaque"

def isContainer : Kind → Bool
  | sequence | object => true
  | _ => false

end Kind

def Scalar.kind : Scalar → Kind
  | null => .null
  | bool _ => .boolean
  | int _ | float _ => .number
  | text _ | ragged _ => .string
  | bytes _ | date _ | moment _ | foreign _ => .other

namespace Value

/-- The entries of a mapping. -/
abbrev Entries := List (Scalar × Value)

def null : Value := scalar .null

def bool (b : Bool) : Value := scalar (.bool b)

def int (n : Int) : Value := scalar (.int n)

def text (s : String) : Value := scalar (.text s)

def texts (ss : List String) : Value := list (ss.map text)

/-- A mapping with texts for keys. -/
def fields (es : List (String × Value)) : Value := mapping (es.map fun e => (.text e.1, e.2))

mutual

/-- The value with `k` in the place of a label. -/
def tie (label : Nat) (k : Value) : Value → Value
  | list items => list (tieItems label k items)
  | tuple items => tuple (tieItems label k items)
  | mapping entries => mapping (tieEntries label k entries)
  | knot l body => if l = label then knot l body else knot l (tie label k body)
  | again l => if l = label then k else again l
  | v => v

def tieItems (label : Nat) (k : Value) : List Value → List Value
  | [] => []
  | v :: vs => tie label k v :: tieItems label k vs

def tieEntries (label : Nat) (k : Value) : List (Scalar × Value) → List (Scalar × Value)
  | [] => []
  | (key, v) :: es => (key, tie label k v) :: tieEntries label k es

end

/-- The value after one turn of its knot, if it is one. -/
def opened : Value → Value
  | knot label body => tie label (knot label body) body
  | v => v

def kind (v : Value) : Kind :=
  match v.opened with
  | scalar s => s.kind
  | list _ | tuple _ => .sequence
  | mapping _ => .object
  | set _ | knot _ _ | again _ => .other

/-- The elements of a sequence. -/
def items? (v : Value) : Option (List Value) :=
  match v.opened with
  | list items | tuple items => some items
  | _ => none

/-- The entries of an object. -/
def entries? (v : Value) : Option Entries :=
  match v.opened with
  | mapping entries => some entries
  | _ => none

def text? : Value → Option String
  | scalar (.text s) => some s
  | _ => none

/-- The text of a text, halves of surrogate pairs replaced. -/
def plainText? : Value → Option String
  | scalar (.text s) => some s
  | scalar (.ragged ps) => some (String.ofList (plainText ps))
  | _ => none

def isNull : Value → Bool
  | scalar .null => true
  | _ => false

/-- The name of the value's type. -/
def typeName : Value → String
  | scalar s => s.typeName
  | list _ => "list"
  | tuple _ => "tuple"
  | mapping _ => "dict"
  | set _ => "set"
  | knot _ body => body.typeName
  | again _ => "dict"

/-- The name of the value's type with the family of types that it belongs to. -/
def fullTypeName : Value → String
  | scalar s => s.fullTypeName
  | v => v.typeName

/-- Null, false, zero and whatever is empty count as nothing given. -/
def isNothing : Value → Bool
  | scalar .null => true
  | scalar (.bool b) => !b
  | scalar (.int n) => n == 0
  | scalar (.float x) => x.toInt? == some 0
  | scalar (.text s) => s.isEmpty
  | scalar (.bytes bs) => bs.isEmpty
  | scalar _ => false
  | list items | tuple items => items.isEmpty
  | mapping entries => entries.isEmpty
  | set members => members.isEmpty
  | knot _ _ | again _ => false

theorem kind_eq_sequence_iff (v : Value) : v.kind = .sequence ↔ v.items?.isSome := by
  unfold kind items?
  cases v.opened with
  | scalar s => cases s <;> simp [Scalar.kind]
  | _ => simp

theorem kind_eq_object_iff (v : Value) : v.kind = .object ↔ v.entries?.isSome := by
  unfold kind entries?
  cases v.opened with
  | scalar s => cases s <;> simp [Scalar.kind]
  | _ => simp

end Value

end DotPath

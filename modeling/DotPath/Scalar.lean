import DotPath.Calendar
import DotPath.Number.Decimal

set_option autoImplicit false

/-!
Scalars: the values without parts, which are also the keys of mappings. As keys, numbers of one
value are the same key whatever their form, the truth values counting as one and zero.
-/

namespace DotPath

open Number Text

/-- A text is `ragged` if it is no proper one. `foreign` is something that documents do not have,
known by its name: a value of another kind, or a tuple used as a key. -/
inductive Scalar where
  | null
  | bool (b : Bool)
  | int (n : Int)
  | float (x : Binary64)
  | text (s : String)
  | ragged (points : List CodePoint)
  | bytes (octets : List UInt8)
  | date (d : Date)
  | moment (t : Moment)
  | foreign (name : String)
  deriving DecidableEq, Repr, Inhabited

namespace Scalar

/-- The text of code points. -/
def ofPoints (ps : List CodePoint) : Scalar :=
  match characters? ps with
  | some cs => text (String.ofList cs)
  | none => ragged ps

/-- The whole number that stands for a truth value or a number without fraction. -/
def normal : Scalar → Scalar
  | bool b => int (if b then 1 else 0)
  | float x =>
    match x.toInt? with
    | some n => int n
    | none => float x
  | s => s

/-- Are the scalars the same key? Moments of known zones are compared by universal time. -/
def same : Scalar → Scalar → Bool
  | moment s, moment t => s.zone.isSome == t.zone.isSome && s.instant == t.instant
  | s, t => decide (s.normal = t.normal)

instance : BEq Scalar := ⟨same⟩

theorem same_refl (s : Scalar) : same s s = true := by
  cases s <;> simp [same]

instance : ReflBEq Scalar := ⟨fun {s} => same_refl s⟩

/-- The setting of floating-point numbers in text. -/
def layout : Layout := { nan := "nan", infinity := "inf" }

/-- The name of the scalar's type. -/
def typeName : Scalar → String
  | null => "NoneType"
  | bool _ => "bool"
  | int _ => "int"
  | float _ => "float"
  | text _ | ragged _ => "str"
  | bytes _ => "bytes"
  | date _ => "date"
  | moment _ => "datetime"
  | foreign _ => "Opaque"

/-- The name of the scalar's type with the family of types that it belongs to. -/
def fullTypeName : Scalar → String
  | date _ => "datetime.date"
  | moment _ => "datetime.datetime"
  | s => s.typeName

end Scalar

end DotPath

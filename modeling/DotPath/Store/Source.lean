import DotPath.Value.Entry
import DotPath.Value.Reference

set_option autoImplicit false

/-!
What a store is built of, as its owner holds it and may change it: a value, or a buffer of octets;
and the memory in which such objects are known by their places. An object may be held by others: a
label that a value does not tie itself is the place of an object there.
-/

namespace DotPath

inductive Source where
  | value (v : Value)
  | buffer (octets : List UInt8)
  deriving Inhabited, Repr

namespace Source

/-- The value that is read. -/
def content : Source → Value
  | value v => v
  | buffer octets => .scalar (.bytes octets)

/-- The place in a buffer that a key is. -/
def bufferPlace (key : Value) (count : Nat) : Except Crash Nat :=
  match key.position? with
  | some n => Value.placeOf "bytearray index out of range" n count
  | none =>
    .error (.wrongType s!"bytearray indices must be integers or slices, not {key.fullTypeName}")

/-- The octet that a value is. -/
def octetOf (v : Value) : Except Crash UInt8 :=
  match v.position? with
  | some n =>
    if 0 ≤ n && n < 256 then .ok (.ofNat n.toNat)
    else .error (.badValue "byte must be in range(0, 256)")
  | none =>
    .error (.wrongType s!"'{v.fullTypeName}' object cannot be interpreted as an integer")

/-- The source with a value under a key. In a buffer the value is looked at before the place, but
a key that is no position is refused first. -/
def assign (s : Source) (key v : Value) : Except Crash Source :=
  match s with
  | value m => value <$> m.assign key v
  | buffer octets => do
    if key.position?.all (!Number.fitsWord ·) then
      let _ ← bufferPlace key octets.length
    let octet ← octetOf v
    pure (buffer (octets.set (← bufferPlace key octets.length) octet))

/-- The source without a key. -/
def remove (s : Source) (key : Value) : Except Crash Source :=
  match s with
  | value m => value <$> m.remove key
  | buffer octets => do pure (buffer (octets.eraseIdx (← bufferPlace key octets.length)))

end Source

/-- Objects that may change, each in a place of its own. -/
structure Memory where
  objects : List Source

namespace Memory

def empty : Memory := ⟨[]⟩

/-- The place of a new object, and the memory with it. -/
def add (m : Memory) (object : Source) : Nat × Memory := (m.objects.length, ⟨m.objects ++ [object]⟩)

/-- The object in a place as it is now. -/
def read (m : Memory) (place : Nat) : Source := m.objects.getD place default

/-- The memory with another object in a place. -/
def write (m : Memory) (place : Nat) (object : Source) : Memory := ⟨m.objects.set place object⟩

/-- What is in a value down to a depth of objects: in the place of each object that it holds stands
what is in that object now. -/
def contents (m : Memory) : Nat → Value → Value
  | 0, v => v
  | depth + 1, v => v.fill fun place => m.contents depth (m.read place).content

end Memory

end DotPath

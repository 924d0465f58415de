import DotPath.Text.CodePoint
import DotPath.Text.DecodeFault

set_option autoImplicit false

/-! UTF-16 in either byte order. A surrogate without its partner is read as it stands. -/

namespace DotPath.Text

/-- Which octet of a unit comes first. -/
inductive ByteOrder where
  | little
  | big
  deriving DecidableEq, Repr

namespace Utf16

def unitOctets : ByteOrder → Nat → List UInt8
  | .little, n => [.ofNat (n % 256), .ofNat (n / 256)]
  | .big, n => [.ofNat (n / 256), .ofNat (n % 256)]

/-- The units of a code point: itself, or a surrogate pair. -/
def units (n : Nat) : List Nat :=
  if n < 0x10000 then [n] else [(splitSurrogates n).1, (splitSurrogates n).2]

def encode (order : ByteOrder) (cs : List Char) : List UInt8 :=
  cs.flatMap fun c => (units c.toNat).flatMap (unitOctets order)

def unitValue : ByteOrder → UInt8 → UInt8 → Nat
  | .little, a, b => a.toNat + 256 * b.toNat
  | .big, a, b => 256 * a.toNat + b.toNat

def codec : ByteOrder → String
  | .little => "utf-16-le"
  | .big => "utf-16-be"

/-- The units of octets that begin at position `i`; a single octet at the end is refused. -/
def readUnits (order : ByteOrder) : Nat → List UInt8 → Except DecodeFault (List Nat)
  | _, [] => .ok []
  | i, [b] =>
    .error { codec := codec order, octet := b, first := i, stop := i + 1,
             reason := "truncated data" }
  | i, a :: b :: bs => (unitValue order a b :: ·) <$> readUnits order (i + 2) bs

/-- The code points of units; surrogate pairs are joined. -/
def joinUnits : List Nat → List CodePoint
  | [] => []
  | [n] => [.ofNat n]
  | m :: n :: ns =>
    if isHighSurrogate m && isLowSurrogate n then .ofNat (joinSurrogates m n) :: joinUnits ns
    else .ofNat m :: joinUnits (n :: ns)

/-- Reads octets that begin at position `i` of the whole. -/
def decode (order : ByteOrder) (i : Nat) (bs : List UInt8) : Except DecodeFault (List CodePoint) :=
  joinUnits <$> readUnits order i bs

end Utf16

end DotPath.Text

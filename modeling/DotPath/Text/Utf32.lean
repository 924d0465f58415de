import DotPath.Text.Utf16

set_option autoImplicit false

/-! UTF-32 in either byte order. Surrogates are read as they stand. -/

namespace DotPath.Text.Utf32

def codeOctets : ByteOrder → Nat → List UInt8
  | .little, n => [.ofNat (n % 256), .ofNat (n / 256 % 256), .ofNat (n / 65536), 0]
  | .big, n => [0, .ofNat (n / 65536), .ofNat (n / 256 % 256), .ofNat (n % 256)]

def encode (order : ByteOrder) (cs : List Char) : List UInt8 :=
  cs.flatMap fun c => codeOctets order c.toNat

def codeValue : ByteOrder → UInt8 → UInt8 → UInt8 → UInt8 → Nat
  | .little, a, b, c, d => a.toNat + 256 * (b.toNat + 256 * (c.toNat + 256 * d.toNat))
  | .big, a, b, c, d => d.toNat + 256 * (c.toNat + 256 * (b.toNat + 256 * a.toNat))

def codec : ByteOrder → String
  | .little => "utf-32-le"
  | .big => "utf-32-be"

/-- Reads octets that begin at position `i` of the whole. -/
def decode (order : ByteOrder) : Nat → List UInt8 → Except DecodeFault (List CodePoint)
  | _, [] => .ok []
  | i, a :: b :: c :: d :: bs =>
    let n := codeValue order a b c d
    if n < 0x110000 then (.ofNat n :: ·) <$> decode order (i + 4) bs
    else
      .error { codec := codec order, octet := a, first := i, stop := i + 4,
               reason := "code point not in range(0x110000)" }
  | i, b :: bs =>
    .error { codec := codec order, octet := b, first := i, stop := i + 1 + bs.length,
             reason := "truncated data" }

end DotPath.Text.Utf32

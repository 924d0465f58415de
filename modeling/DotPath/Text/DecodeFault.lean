import DotPath.Text.Digit

set_option autoImplicit false

/-! Octets that a character encoding cannot read. -/

namespace DotPath.Text

/-- The octets from `first` up to, not including, `stop`; the first of them is `octet`. -/
structure DecodeFault where
  codec : String
  octet : UInt8
  first : Nat
  stop : Nat
  reason : String
  deriving DecidableEq, Repr

def DecodeFault.message (f : DecodeFault) : String :=
  if f.stop = f.first + 1 then
    let octet := String.ofList (hex 2 f.octet.toNat)
    s!"'{f.codec}' codec can't decode byte 0x{octet} in position {f.first}: {f.reason}"
  else
    let last := f.stop - 1
    s!"'{f.codec}' codec can't decode bytes in position {f.first}-{last}: {f.reason}"

end DotPath.Text

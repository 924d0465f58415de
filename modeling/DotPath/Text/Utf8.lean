import DotPath.Text.CodePoint
import DotPath.Text.DecodeFault

set_option autoImplicit false

/-!
UTF-8. The first octet of a character fixes how many follow and the range of the second; the
reader keeps the character it is in the middle of.
-/

namespace DotPath.Text.Utf8

/-- The octets of a code point. -/
def encodeCode (n : Nat) : List UInt8 :=
  let tail (k : Nat) : UInt8 := .ofNat (0x80 + n / Nat.pow 64 k % 64)
  if n < 0x80 then [.ofNat n]
  else if n < 0x800 then [.ofNat (0xc0 + n / 64), tail 0]
  else if n < 0x10000 then [.ofNat (0xe0 + n / 0x1000), tail 1, tail 0]
  else [.ofNat (0xf0 + n / 0x40000), tail 2, tail 1, tail 0]

def encode (cs : List Char) : List UInt8 := cs.flatMap fun c => encodeCode c.toNat

/-- A character of which `taken` octets are read and `missing` are owed; the next one lies between
`low` and `high`. -/
structure Partial where
  octet : UInt8
  first : Nat
  taken : Nat
  missing : Nat
  low : Nat
  high : Nat
  code : Nat

/-- A character begun with an octet of at least `0x80`. With `surrogates`, the code points of
surrogates are read like others. -/
def begin? (surrogates : Bool) (b : UInt8) (first : Nat) : Option Partial :=
  let start (missing low high code : Nat) : Option Partial :=
    some { octet := b, first, taken := 1, missing, low, high, code }
  let n := b.toNat
  if n < 0xc2 then none
  else if n < 0xe0 then start 1 0x80 0xbf (n - 0xc0)
  else if n = 0xe0 then start 2 0xa0 0xbf 0
  else if n = 0xed then start 2 0x80 (if surrogates then 0xbf else 0x9f) 0xd
  else if n < 0xf0 then start 2 0x80 0xbf (n - 0xe0)
  else if n = 0xf0 then start 3 0x90 0xbf 0
  else if n < 0xf4 then start 3 0x80 0xbf (n - 0xf0)
  else if n = 0xf4 then start 3 0x80 0x8f 4
  else none

/-- Half a surrogate is refused at its first octet, since it is no character by rights. -/
def Partial.isSurrogateHalf (p : Partial) : Bool :=
  p.missing = 1 && 0xd800 / 64 ≤ p.code && p.code < 0xe000 / 64

def Partial.fault (p : Partial) (stop : Nat) (reason : String) : DecodeFault :=
  { codec := "utf-8", octet := p.octet, first := p.first, stop, reason }

/-- The character is followed by an octet that cannot continue it. -/
def Partial.broken (p : Partial) : DecodeFault :=
  p.fault (if p.isSurrogateHalf then p.first + 1 else p.first + p.taken) "invalid continuation byte"

/-- The text ends inside the character. -/
def Partial.unfinished (p : Partial) : DecodeFault :=
  if p.isSurrogateHalf then p.broken else p.fault (p.first + p.taken) "unexpected end of data"

/-- Reads the octets from position `i` on, `pending` being the character under way. -/
def decodeFrom (surrogates : Bool) :
    Option Partial → Nat → List UInt8 → Except DecodeFault (List CodePoint)
  | none, _, [] => .ok []
  | some p, _, [] => .error p.unfinished
  | none, i, b :: bs =>
    if b.toNat < 0x80 then
      (.ofNat b.toNat :: ·) <$> decodeFrom surrogates none (i + 1) bs
    else
      match begin? surrogates b i with
      | some p => decodeFrom surrogates (some p) (i + 1) bs
      | none =>
        .error { codec := "utf-8", octet := b, first := i, stop := i + 1,
                 reason := "invalid start byte" }
  | some p, i, b :: bs =>
    let n := b.toNat
    if p.low ≤ n ∧ n ≤ p.high then
      let code := p.code * 64 + (n - 0x80)
      if p.missing = 1 then (.ofNat code :: ·) <$> decodeFrom surrogates none (i + 1) bs
      else
        let p' :=
          { p with taken := p.taken + 1, missing := p.missing - 1, low := 0x80, high := 0xbf, code }
        decodeFrom surrogates (some p') (i + 1) bs
    else .error p.broken

/-- Reads UTF-8, surrogates refused. -/
def decode (bs : List UInt8) : Except DecodeFault (List Char) :=
  plainText <$> decodeFrom false none 0 bs

end DotPath.Text.Utf8

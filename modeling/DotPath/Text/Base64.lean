set_option autoImplicit false

/-!
Base64 read leniently: characters outside the alphabet are passed over, and enough padding after
the second or third digit of a group ends the text.
-/

namespace DotPath.Text.Base64

/-- The value of a digit. -/
def digitValue? (c : Char) : Option Nat :=
  if 'A' ≤ c && c ≤ 'Z' then some (c.toNat - 'A'.toNat)
  else if 'a' ≤ c && c ≤ 'z' then some (c.toNat - 'a'.toNat + 26)
  else if '0' ≤ c && c ≤ '9' then some (c.toNat - '0'.toNat + 52)
  else if c = '+' then some 62
  else if c = '/' then some 63
  else none

/-- The octets of a text, `group` holding the digits of the group under way, the latest first, and
`pads` the count of padding characters since the last of them. A group must be whole in the end. -/
def decodeFrom (group : List Nat) (pads : Nat) : List Char → Option (List UInt8)
  | [] => if group.isEmpty then some [] else none
  | c :: cs =>
    if c = '=' then
      if 2 ≤ group.length then
        if 4 ≤ group.length + (pads + 1) then some [] else decodeFrom group (pads + 1) cs
      else decodeFrom group pads cs
    else
      match digitValue? c, group with
      | none, _ => decodeFrom group pads cs
      | some d, [] => decodeFrom [d] 0 cs
      | some d, [a] => (.ofNat (a * 4 + d / 16) :: ·) <$> decodeFrom [d, a] 0 cs
      | some d, [b, a] => (.ofNat (b % 16 * 16 + d / 4) :: ·) <$> decodeFrom [d, b, a] 0 cs
      | some d, b :: _ => (.ofNat (b % 4 * 64 + d) :: ·) <$> decodeFrom [] 0 cs

def decode (cs : List Char) : Option (List UInt8) := decodeFrom [] 0 cs

end DotPath.Text.Base64

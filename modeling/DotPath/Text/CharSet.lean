set_option autoImplicit false

/-! Sets of characters written as ranges of code points. -/

namespace DotPath.Text

/-- A set of characters as closed ranges of code points in increasing order. -/
structure CharSet where
  ranges : List (Nat × Nat)

def CharSet.contains (s : CharSet) (c : Char) : Bool :=
  s.ranges.any fun r => r.1 ≤ c.toNat && c.toNat ≤ r.2

end DotPath.Text

set_option autoImplicit false

/-!
Surrogates: the code points that are no characters. Two of them, a high one and a low one, are a
pair that stands for a character beyond the basic plane.
-/

namespace DotPath.Text

def isHighSurrogate (n : Nat) : Bool := 0xd800 ≤ n && n < 0xdc00

def isLowSurrogate (n : Nat) : Bool := 0xdc00 ≤ n && n < 0xe000

def isSurrogate (n : Nat) : Bool := 0xd800 ≤ n && n < 0xe000

/-- The code point beyond the basic plane that a surrogate pair stands for. -/
def joinSurrogates (high low : Nat) : Nat := 0x10000 + (high - 0xd800) * 0x400 + (low - 0xdc00)

/-- The pair that stands for a code point beyond the basic plane. -/
def splitSurrogates (n : Nat) : Nat × Nat :=
  (0xd800 + (n - 0x10000) / 0x400, 0xdc00 + (n - 0x10000) % 0x400)

theorem joinSurrogates_splitSurrogates (n : Nat) (h : 0x10000 ≤ n) :
    joinSurrogates (splitSurrogates n).1 (splitSurrogates n).2 = n := by
  have hd := Nat.div_add_mod (n - 0x10000) 0x400
  show 0x10000 + (0xd800 + (n - 0x10000) / 0x400 - 0xd800) * 0x400 +
    (0xdc00 + (n - 0x10000) % 0x400 - 0xdc00) = n
  rw [Nat.add_sub_cancel_left, Nat.add_sub_cancel_left, Nat.mul_comm, Nat.add_assoc, hd]
  exact Nat.add_sub_cancel' h

theorem isHighSurrogate_split (n : Nat) (h : n < 0x110000) :
    isHighSurrogate (splitSurrogates n).1 := by
  have hd : (n - 0x10000) / 0x400 < 0x400 := Nat.div_lt_of_lt_mul (by omega)
  have hs : (splitSurrogates n).1 = 0xd800 + (n - 0x10000) / 0x400 := rfl
  rw [hs]
  generalize (n - 0x10000) / 0x400 = q at hd
  simp [isHighSurrogate]
  omega

theorem isLowSurrogate_split (n : Nat) : isLowSurrogate (splitSurrogates n).2 := by
  have hm : (n - 0x10000) % 0x400 < 0x400 := Nat.mod_lt _ (by decide)
  have hs : (splitSurrogates n).2 = 0xdc00 + (n - 0x10000) % 0x400 := rfl
  rw [hs]
  generalize (n - 0x10000) % 0x400 = r at hm
  simp [isLowSurrogate]
  omega

end DotPath.Text

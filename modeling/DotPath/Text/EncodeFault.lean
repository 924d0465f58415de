import DotPath.Text.CodePoint
import DotPath.Text.Digit

set_option autoImplicit false

/-! Texts that cannot be written in UTF-8: halves of surrogate pairs have no octets. -/

namespace DotPath.Text

/-- The halves from `first` up to, not including, `stop`; the first of them is `half`. -/
structure EncodeFault where
  half : Nat
  first : Nat
  stop : Nat
  deriving DecidableEq, Repr

def EncodeFault.message (f : EncodeFault) : String :=
  if f.stop = f.first + 1 then
    let escape := String.ofList ('\\' :: 'u' :: hex 4 f.half)
    s!"'utf-8' codec can't encode character '{escape}' in position {f.first}: " ++
      "surrogates not allowed"
  else
    let last := f.stop - 1
    s!"'utf-8' codec can't encode characters in position {f.first}-{last}: surrogates not allowed"

/-- The characters of a text that begins at position `i`. -/
def properFrom : Nat → List CodePoint → Except EncodeFault (List Char)
  | _, [] => .ok []
  | i, .char c :: ps => (c :: ·) <$> properFrom (i + 1) ps
  | i, .half n :: ps =>
    .error { half := n, first := i, stop := i + 1 + (ps.takeWhile (·.char?.isNone)).length }

/-- The characters of a text, if it is a proper one. -/
def proper (ps : List CodePoint) : Except EncodeFault (List Char) := properFrom 0 ps

theorem properFrom_eq_ok_iff (i : Nat) (ps : List CodePoint) (cs : List Char) :
    properFrom i ps = .ok cs ↔ ps = codePoints cs := by
  induction ps generalizing i cs with
  | nil => cases cs <;> simp [properFrom]
  | cons p ps ih =>
    cases p with
    | half n => cases cs <;> simp [properFrom]
    | char c =>
      rw [properFrom]
      cases hrest : properFrom (i + 1) ps with
      | error fault =>
        have hno (ds : List Char) : ps ≠ codePoints ds := fun h => by
          rw [(ih (i + 1) ds).2 h] at hrest
          cases hrest
        cases cs <;> simp [Functor.map, Except.map, hno]
      | ok ds =>
        obtain rfl := (ih (i + 1) ds).1 hrest
        cases cs with
        | nil => simp [Functor.map, Except.map]
        | cons d ds' =>
          have hinj : codePoints ds = codePoints ds' ↔ ds = ds' :=
            List.map_inj_right fun _ _ h => CodePoint.char.inj h
          simp [Functor.map, Except.map, hinj]

theorem proper_eq_ok_iff (ps : List CodePoint) (cs : List Char) :
    proper ps = .ok cs ↔ ps = codePoints cs := properFrom_eq_ok_iff 0 ps cs

theorem properFrom_fails_iff (i : Nat) (ps : List CodePoint) :
    (∃ fault, properFrom i ps = .error fault) ↔ ∃ n, .half n ∈ ps := by
  induction ps generalizing i with
  | nil => simp [properFrom]
  | cons p ps ih =>
    cases p with
    | half n => exact iff_of_true ⟨_, rfl⟩ ⟨n, by simp⟩
    | char c =>
      have hrest : (∃ n, .half n ∈ CodePoint.char c :: ps) ↔ ∃ n, .half n ∈ ps := by simp
      rw [hrest, ← ih (i + 1), properFrom]
      cases properFrom (i + 1) ps <;> simp [Functor.map, Except.map]

/-- A text is improper if it has a half. -/
theorem proper_fails_iff (ps : List CodePoint) :
    (∃ fault, proper ps = .error fault) ↔ ∃ n, .half n ∈ ps := properFrom_fails_iff 0 ps

end DotPath.Text

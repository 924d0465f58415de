set_option autoImplicit false

/-!
Texts cut at a separator. Main statement: `split_append`, by which two texts joined by the
separator are cut as each alone.
-/

namespace DotPath.Text

variable {α : Type} [DecidableEq α]

/-- The parts between the separators; a text without one is a single part. -/
def split (sep : α) : List α → List (List α)
  | [] => [[]]
  | c :: cs =>
    if c = sep then [] :: split sep cs
    else
      match split sep cs with
      | [] => [[c]]
      | s :: ss => (c :: s) :: ss

theorem split_ne_nil (sep : α) (cs : List α) : split sep cs ≠ [] := by
  cases cs with
  | nil => simp [split]
  | cons c cs =>
    simp only [split]
    split
    · simp
    · split <;> simp

theorem split_append (sep : α) (p q : List α) :
    split sep (p ++ sep :: q) = split sep p ++ split sep q := by
  induction p with
  | nil => simp [split]
  | cons c p ih =>
    by_cases hc : c = sep
    · simp [split, hc, ih]
    · simp only [List.cons_append, split, hc, if_false, ih]
      cases hs : split sep p with
      | nil => exact absurd hs (split_ne_nil sep p)
      | cons s ss => rfl

end DotPath.Text

import DotPath.Json.Reader
import DotPath.Proofs.Numeral

set_option autoImplicit false

/-!
Whole numbers as they are written. A numeral is read as the number that it writes if it has no more
digits than a numeral may have, and a longer one stops the reader. What comes after it must not make
it longer.
-/

namespace DotPath.Json

open Number Text

/-- What comes after is nothing, or one of the marks that end a value. -/
def Ends (rest : List CodePoint) : Prop :=
  ∀ p ∈ rest.head?, p ∈ codePoints [',', ']', '\x7d', '\n']

theorem ends_nil : Ends [] := by simp [Ends]

theorem ends_cons (c : Char) (rest : List CodePoint) (h : c ∈ [',', ']', '\x7d', '\n']) :
    Ends (.char c :: rest) := by
  simpa [Ends, codePoints] using h

/-- Digits that are not led by a zero that they could do without. -/
structure Numeral (ds : List Char) : Prop where
  digits : ∀ c ∈ ds, isAsciiDigit c
  ne_nil : ds ≠ []
  zero : ds.head? = some '0' → ds = ['0']

theorem numeral_digits (n : Nat) : Numeral (digits n) := by
  refine ⟨isAsciiDigit_of_mem_digits n, digits_ne_nil n, fun h => ?_⟩
  obtain ⟨ds, hds⟩ : ∃ ds, digits n = '0' :: ds := List.head?_eq_some_iff.1 h
  -- A zero in front could be left out, but there is no shorter numeral of the number.
  have hdigits : ∀ c ∈ ds, isAsciiDigit c := fun c hc =>
    isAsciiDigit_of_mem_digits n c (by simp [hds, hc])
  have hvalue : ofDigits 10 ds = n := by
    have hn := ofDigits_digits n
    rw [hds] at hn
    simpa [ofDigits, letterValue?, isAsciiDigit, digitValue] using hn
  cases ds with
  | nil => exact hds
  | cons d ds =>
    have hle := length_digits_ofDigits (d :: ds) (by simp) hdigits
    rw [hvalue, hds] at hle
    simp at hle

section Digits

variable (ds : List Char) (rest : List CodePoint)

theorem digitRun_append (h : ∀ c ∈ ds, isAsciiDigit c)
    (hrest : ∀ p ∈ rest.head?, p.is isAsciiDigit = false) :
    digitRun (codePoints ds ++ rest) = (ds, rest) := by
  have hds : ∀ p ∈ codePoints ds, p.is isAsciiDigit := by
    simpa [codePoints, CodePoint.is] using h
  have htake : (codePoints ds ++ rest).takeWhile (·.is isAsciiDigit) = codePoints ds := by
    rw [List.takeWhile_append_of_pos hds]
    cases rest with
    | nil => simp
    | cons p rest => simp [hrest p rfl]
  have hdrop : (codePoints ds ++ rest).dropWhile (·.is isAsciiDigit) = rest := by
    rw [List.dropWhile_append_of_pos hds]
    cases rest with
    | nil => rfl
    | cons p rest => simp [hrest p rfl]
  simp [digitRun, List.span_eq_takeWhile_dropWhile, htake, hdrop]

theorem wholeDigits?_append (h : Numeral ds)
    (hrest : ∀ p ∈ rest.head?, p.is isAsciiDigit = false) :
    wholeDigits? (codePoints ds ++ rest) = some (ds, rest) := by
  obtain ⟨d, ds', rfl⟩ := List.exists_cons_of_ne_nil h.ne_nil
  by_cases hd : d = '0'
  · subst hd
    obtain rfl : ds' = [] := by simpa using h.zero rfl
    rfl
  · have hrun := digitRun_append (d :: ds') rest h.digits hrest
    have hdigit : isAsciiDigit d := h.digits d (by simp)
    simpa [wholeDigits?, hd, CodePoint.is, hdigit] using hrun

end Digits

section Ends

variable (rest : List CodePoint) (h : Ends rest)

include h

theorem not_digit_of_ends : ∀ p ∈ rest.head?, p.is isAsciiDigit = false := by
  have hall : ∀ p ∈ codePoints [',', ']', '\x7d', '\n'], p.is isAsciiDigit = false := by decide
  exact fun p hp => hall p (h p hp)

theorem fraction?_of_ends : fraction? rest = none := by
  unfold fraction?
  split
  next rest =>
    have hpoint : CodePoint.char '.' ∉ codePoints [',', ']', '\x7d', '\n'] := by decide
    exact absurd (h _ rfl) hpoint
  next => rfl

theorem exponent?_of_ends : exponent? rest = none := by
  have hall : ∀ p ∈ codePoints [',', ']', '\x7d', '\n'],
      p.is (fun c => c == 'e' || c == 'E') = false := by decide
  cases rest with
  | nil => rfl
  | cons p rest => simp [exponent?, hall p (h p rfl)]

/-- A numeral is read as a whole number, or it is too long. -/
theorem readNumber?_numeral (negative : Bool) (ds : List Char) (hds : Numeral ds) :
    readNumber? (codePoints ((if negative then ['-'] else []) ++ ds) ++ rest) =
      some (if digitLimit < ds.length then .error (.numeral (.tooLong ds.length))
        else .ok (.int (negateIf negative (ofDigits 10 ds)), rest)) := by
  have hwhole := wholeDigits?_append ds rest hds (not_digit_of_ends rest h)
  have hfraction := fraction?_of_ends rest h
  have hexponent := exponent?_of_ends rest h
  cases negative with
  | true =>
    simp only [if_true, List.cons_append, List.nil_append, codePoints_cons, readNumber?, hwhole,
      hfraction, hexponent]
    split <;> rfl
  | false =>
    obtain ⟨d, ds, rfl⟩ := List.exists_cons_of_ne_nil hds.ne_nil
    have hd : d ≠ '-' := by
      rintro rfl
      exact absurd (hds.digits '-' (by simp)) (by decide)
    rw [codePoints_cons, List.cons_append] at hwhole
    simp only [Bool.false_eq_true, if_false, List.nil_append, codePoints_cons, List.cons_append,
      readNumber?, List.cons.injEq, CodePoint.char.injEq, hd, false_and, imp_self, implies_true,
      hwhole, hfraction, hexponent]
    split <;> rfl

end Ends

end DotPath.Json

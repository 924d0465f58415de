import DotPath.Number.Integer
import Mathlib

set_option autoImplicit false

/-!
Numerals made of the digits `0` to `9` alone. Such a numeral is read as the natural number that it
writes, so nothing read is negative, and a number is never written longer than it was read.
-/

namespace DotPath.Number

open Text

theorem isAsciiDigit_iff (c : Char) : isAsciiDigit c ↔ 48 ≤ c.toNat ∧ c.toNat ≤ 57 := by
  simp only [isAsciiDigit, Bool.and_eq_true, decide_eq_true_eq, Char.le_def, UInt32.le_iff_toNat_le]
  rfl

theorem isAsciiDigit_of_isDigit (c : Char) (h : c.isDigit) : isAsciiDigit c := by
  simp only [Char.isDigit, Bool.and_eq_true, decide_eq_true_eq, UInt32.le_iff_toNat_le] at h
  exact (isAsciiDigit_iff c).2 h

theorem digitValue_lt (c : Char) (h : isAsciiDigit c) : digitValue c < 10 := by
  have hc := (isAsciiDigit_iff c).1 h
  change c.toNat - 48 < 10
  omega

theorem letterValue?_of_digit (c : Char) (h : isAsciiDigit c) :
    letterValue? c = some (digitValue c) := by simp [letterValue?, h]

theorem isDigitOf_of_digit (c : Char) (h : isAsciiDigit c) : isDigitOf 10 c := by
  simp [isDigitOf, letterValue?_of_digit c h, digitValue_lt c h]

theorem plainNumeralChar_of_digit (c : Char) (h : isAsciiDigit c) : plainNumeralChar c = c := by
  have hc := (isAsciiDigit_iff c).1 h
  have hl : c.toNat < 0x80 := by omega
  simp [plainNumeralChar, hl]

theorem isNumeralBlank_of_digit (c : Char) (h : isAsciiDigit c) : isNumeralBlank c = false := by
  have hc := (isAsciiDigit_iff c).1 h
  have hs : c ≠ ' ' := by rintro rfl; simp at hc
  have hr : ¬ c ≤ '\r' := by
    simp only [Char.le_def, UInt32.le_iff_toNat_le]
    change ¬ c.toNat ≤ 13
    omega
  simp [isNumeralBlank, hs, hr]

theorem plainNumeral_of_digits (ds : List Char) (h : ∀ c ∈ ds, isAsciiDigit c) :
    plainNumeral (codePoints ds) = ds := by
  rw [plainNumeral, plainText_codePoints]
  calc
    ds.map plainNumeralChar = ds.map id :=
      List.map_congr_left fun c hc => plainNumeralChar_of_digit c (h c hc)
    _ = ds := List.map_id ds

theorem splitSign_of_digits (ds : List Char) (h : ∀ c ∈ ds, isAsciiDigit c) :
    splitSign ds = (false, ds) := by
  cases ds with
  | nil => rfl
  | cons d ds =>
    have hd := (isAsciiDigit_iff d).1 (h d (by simp))
    have hm : d ≠ '-' := by rintro rfl; simp at hd
    have hp : d ≠ '+' := by rintro rfl; simp at hd
    simp [splitSign, hm, hp]

theorem dropBaseMark_ten (cs : List Char) : dropBaseMark 10 cs = cs := by
  unfold dropBaseMark
  split
  · simp [baseMark]
  · rfl

/-- Digits are refused if they are too many, and else read as a natural number. -/
theorem readInteger_digits (ds : List Char) (hne : ds ≠ []) (h : ∀ c ∈ ds, isAsciiDigit c) :
    readInteger 10 (codePoints ds) =
      if digitLimit < ds.length then .error (.tooLong ds.length)
      else .ok (ofDigits 10 ds : Nat) := by
  have hb : ds.dropWhile isNumeralBlank = ds := by
    cases ds with
    | nil => rfl
    | cons d ds => simp [isNumeralBlank_of_digit d (h d (by simp))]
  have hs : ds.span (isDigitOf 10) = (ds, []) := by
    rw [List.span_eq_takeWhile_dropWhile]
    have hd : ∀ c ∈ ds, isDigitOf 10 c := fun c hc => isDigitOf_of_digit c (h c hc)
    rw [List.takeWhile_eq_self_iff.2 hd, List.dropWhile_eq_nil_iff.2 hd]
  have he : ds.isEmpty = false := by simpa using hne
  simp only [readInteger, plainNumeral_of_digits ds h, hb, splitSign_of_digits ds h,
    dropBaseMark_ten, hs]
  simp [he, negateIf]

theorem ofDigits_append_digit (ds : List Char) (d : Char) :
    ofDigits 10 (ds ++ [d]) = ofDigits 10 ds * 10 + (letterValue? d).getD 0 := by
  simp [ofDigits]

theorem ofDigits_lt (ds : List Char) (h : ∀ c ∈ ds, isAsciiDigit c) :
    ofDigits 10 ds < 10 ^ ds.length := by
  induction ds using List.reverseRecOn with
  | nil => simp [ofDigits]
  | append_singleton ds d ih =>
    have hd := h d (by simp)
    have hv := digitValue_lt d hd
    have hr := ih fun c hc => h c (by simp [hc])
    rw [ofDigits_append_digit, letterValue?_of_digit d hd, List.length_append]
    simp only [Option.getD_some, List.length_singleton, Nat.pow_succ]
    omega

theorem digits_ne_nil (n : Nat) : digits n ≠ [] := Nat.toDigits_ne_nil

theorem isAsciiDigit_of_mem_digits (n : Nat) (c : Char) (h : c ∈ digits n) : isAsciiDigit c :=
  isAsciiDigit_of_isDigit c (Nat.isDigit_of_mem_toDigits (by decide) (by decide) h)

theorem length_digits_ofDigits (ds : List Char) (hne : ds ≠ []) (h : ∀ c ∈ ds, isAsciiDigit c) :
    (digits (ofDigits 10 ds)).length ≤ ds.length :=
  (Nat.length_toDigits_le_iff (by decide) (List.length_pos_iff.2 hne)).2 (ofDigits_lt ds h)

theorem ofDigits_eq_ofDigitChars (ds : List Char) (h : ∀ c ∈ ds, isAsciiDigit c) :
    ofDigits 10 ds = Nat.ofDigitChars 10 ds 0 := by
  rw [ofDigits, Nat.ofDigitChars_eq_foldl]
  refine List.foldl_ext _ _ _ fun n c hc => ?_
  rw [letterValue?_of_digit c (h c hc), Option.getD_some, Nat.mul_comm]
  rfl

@[simp] theorem ofDigits_digits (n : Nat) : ofDigits 10 (digits n) = n := by
  rw [ofDigits_eq_ofDigitChars _ (isAsciiDigit_of_mem_digits n)]
  exact Nat.ofDigitChars_ten_toDigits

@[simp] theorem decimal_natCast (n : Nat) : decimal n = digits n := by simp [decimal]

end DotPath.Number

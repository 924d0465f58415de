import DotPath.Json.Reader
import DotPath.Json.Writer
import DotPath.Proofs.Text.Encoding

set_option autoImplicit false

/-!
Strings as they are written. Each character is written as it is or as an escape, and either way the
reader of strings gets that character back, up to the quote that closes the string.
-/

namespace DotPath.Json

open Text

/-- A character is written by a letter, by its code or as it is. -/
theorem escapeChar_cases (c : Char) :
    (∃ e, e ≠ 'u' ∧ unescape? e = some c ∧ escapeChar c = ['\\', e]) ∨
      (c.toNat < 0x20 ∧ escapeChar c = '\\' :: 'u' :: hex 4 c.toNat) ∨
      (c ≠ '"' ∧ c ≠ '\\' ∧ 0x20 ≤ c.toNat ∧ escapeChar c = [c]) := by
  by_cases hletter : c ∈ ['"', '\\', '\n', '\r', '\t', '\x08', '\x0c']
  · refine .inl ?_
    simp only [List.mem_cons, List.not_mem_nil, or_false] at hletter
    rcases hletter with rfl | rfl | rfl | rfl | rfl | rfl | rfl
    · exact ⟨'"', by decide, rfl, rfl⟩
    · exact ⟨'\\', by decide, rfl, rfl⟩
    · exact ⟨'n', by decide, rfl, rfl⟩
    · exact ⟨'r', by decide, rfl, rfl⟩
    · exact ⟨'t', by decide, rfl, rfl⟩
    · exact ⟨'b', by decide, rfl, rfl⟩
    · exact ⟨'f', by decide, rfl, rfl⟩
  · simp only [List.mem_cons, List.not_mem_nil, or_false, not_or] at hletter
    by_cases hcode : c.toNat < 0x20
    · exact .inr (.inl ⟨hcode, by simp [escapeChar, hletter, hcode]⟩)
    · exact .inr (.inr ⟨hletter.1, hletter.2.1, by omega, by simp [escapeChar, hletter, hcode]⟩)

theorem exists_hex4? (n : Nat) (h : n < 0x20) :
    ∃ a b c d : Char, hex 4 n = [a, b, c, d] ∧
      hex4? (.char a) (.char b) (.char c) (.char d) = some n := by
  have hall : ∀ n < 0x20, hex4? (.char (hexDigit (n / 16 / 16 / 16 % 16)))
      (.char (hexDigit (n / 16 / 16 % 16))) (.char (hexDigit (n / 16 % 16)))
      (.char (hexDigit (n % 16))) = some n := by decide
  exact ⟨_, _, _, _, rfl, hall n h⟩

theorem joinParts_code (n : Nat) (h : n < 0x20) (ps : List StringPart) :
    joinParts (.code n :: ps) = .ofNat n :: joinParts ps := by
  have hn : isHighSurrogate n = false := by
    simp [isHighSurrogate]
    omega
  cases ps with
  | nil => rfl
  | cons p ps => cases p <;> simp [joinParts, hn]

section ReadParts

variable (start rest : List CodePoint)

theorem readParts_letter (e c : Char) (he : e ≠ 'u') (h : unescape? e = some c) :
    readParts start (.char '\\' :: .char e :: rest) =
      (fun r => (.point (.char c) :: r.1, r.2)) <$> readParts start rest := by
  simp [readParts, he, CodePoint.char?, h]

theorem readParts_code (a b c d : CodePoint) (n : Nat) (h : hex4? a b c d = some n)
    (hrest : rest ≠ []) :
    readParts start (.char '\\' :: .char 'u' :: a :: b :: c :: d :: rest) =
      (fun r => (.code n :: r.1, r.2)) <$> readParts start rest := by
  simp [readParts, h, hrest]

theorem readParts_plain (c : Char) (hquote : c ≠ '"') (hslash : c ≠ '\\') (h : 0x20 ≤ c.toNat) :
    readParts start (.char c :: rest) =
      (fun r => (.point (.char c) :: r.1, r.2)) <$> readParts start rest := by
  simp [readParts, hquote, hslash, CodePoint.is, h]

/-- A character is read from its written form as a part that stands for it. -/
theorem exists_part (c : Char) (hrest : rest ≠ []) :
    ∃ part, (∀ ps, joinParts (part :: ps) = .char c :: joinParts ps) ∧
      readParts start (codePoints (escapeChar c) ++ rest) =
        (fun r => (part :: r.1, r.2)) <$> readParts start rest := by
  obtain ⟨e, he, hc, hesc⟩ | ⟨hc, hesc⟩ | ⟨hquote, hslash, hc, hesc⟩ := escapeChar_cases c
  · rw [hesc]
    exact ⟨.point (.char c), fun _ => rfl, readParts_letter start rest e c he hc⟩
  · obtain ⟨x, y, z, w, hhex, hread⟩ := exists_hex4? c.toNat hc
    rw [hesc, hhex]
    refine ⟨.code c.toNat, fun ps => ?_, readParts_code start rest _ _ _ _ _ hread hrest⟩
    rw [joinParts_code _ hc, ofNat_toNat]
  · rw [hesc]
    exact ⟨.point (.char c), fun _ => rfl, readParts_plain start rest c hquote hslash hc⟩

theorem exists_parts (cs : List Char) :
    ∃ parts, joinParts parts = codePoints cs ∧
      readParts start ((codePoints cs).flatMap escapePoint ++ .char '"' :: rest) =
        .ok (parts, rest) := by
  induction cs with
  | nil => exact ⟨[], rfl, rfl⟩
  | cons c cs ih =>
    obtain ⟨parts, hjoin, hread⟩ := ih
    obtain ⟨part, hpart, hfirst⟩ :=
      exists_part start ((codePoints cs).flatMap escapePoint ++ .char '"' :: rest) c (by simp)
    refine ⟨part :: parts, by rw [hpart, hjoin, codePoints_cons], ?_⟩
    rw [codePoints_cons, List.flatMap_cons, List.append_assoc, escapePoint, hfirst, hread]
    rfl

end ReadParts

/-- A string is read back from its written form. -/
theorem readString_written (start rest : List CodePoint) (s : String) :
    readString start ((codePoints s.toList).flatMap escapePoint ++ .char '"' :: rest) =
      .ok (.text s, rest) := by
  obtain ⟨parts, hjoin, hread⟩ := exists_parts start rest s.toList
  rw [readString, hread]
  simp [Functor.map, Except.map, hjoin, Scalar.ofPoints]

end DotPath.Json

import DotPath.Proofs.Json.Members

set_option autoImplicit false

/-!
Places in a text of JSON. From a place there is one way on: past a string, a number or a word, past
what stands between values, and into or out of a bracket. Strings are told by their quotes alone.
-/

namespace DotPath.Json

open Number Text

/-- A place between words: the brackets open there, and the text from there on. -/
abbrev Place := Nat × List CodePoint

/-- What comes after the quote that closes a string. -/
def afterString : List CodePoint → Option (List CodePoint)
  | [] => none
  | .char '"' :: ps => some ps
  | .char '\\' :: _ :: ps => afterString ps
  | _ :: ps => afterString ps

/-- What may stand between values. -/
def isBetween (c : Char) : Bool := isJsonBlank c || c == ',' || c == ':'

/-- The next place of a text in which no more than `limit` brackets may be open at once. -/
def next? (limit : Nat) : Place → Option Place
  | (k, .char '"' :: ps) => (afterString ps).map (k, ·)
  | (k, .char '[' :: ps) | (k, .char '\x7b' :: ps) => if k < limit then some (k + 1, ps) else none
  | (k + 1, .char ']' :: ps) | (k + 1, .char '\x7d' :: ps) => some (k, ps)
  | (k, p :: ps) =>
    if p.is isBetween then some (k, ps)
    else
      match readWord? (p :: ps), readNumber? (p :: ps) with
      | some (_, rest), _ | none, some (.ok (_, rest)) => some (k, rest)
      | none, _ => none
  | (_, []) => none

/-- The one place is come to from the other. -/
abbrev Leads (limit : Nat) : Place → Place → Prop :=
  Relation.ReflTransGen fun a b => next? limit a = some b

/-! ### Strings -/

theorem afterString_of_ne (p : CodePoint) (ps : List CodePoint) (hquote : p ≠ .char '"')
    (hslash : p ≠ .char '\\') : afterString (p :: ps) = afterString ps := by
  rw [afterString.eq_4] <;> simp_all

theorem afterString_hex (ps : List CodePoint) (h : ∀ p ∈ ps, p.is isHexDigit)
    (rest : List CodePoint) : afterString (ps ++ rest) = afterString rest := by
  induction ps with
  | nil => rfl
  | cons p ps ih =>
    obtain ⟨hp, hps⟩ := List.forall_mem_cons.1 h
    have hne (c : Char) (hc : isHexDigit c = false) : p ≠ .char c := by
      rintro rfl
      simp [CodePoint.is, hc] at hp
    rw [List.cons_append, afterString_of_ne p _ (hne '"' (by decide)) (hne '\\' (by decide)),
      ih hps]

/-- A string is read up to the quote that closes it, or there is a fault in it. -/
theorem readParts_cases (start ps : List CodePoint) :
    (∃ parts rest, readParts start ps = .ok (parts, rest) ∧ afterString ps = some rest) ∨
      ∃ reason rest, readParts start ps = .error (.fault reason rest) := by
  fun_induction readParts start ps with
  | case1 | case3 | case4 | case6 | case7 | case9 | case10 => exact .inr ⟨_, _, rfl⟩
  | case2 rest => exact .inl ⟨[], rest, rfl, rfl⟩
  | case5 a b c d after n hcode _ ih =>
    obtain ⟨parts, rest, hread, hafter⟩ | ⟨reason, rest, hread⟩ := ih
    · have hhex : ∀ p ∈ [a, b, c, d], p.is isHexDigit := by
        unfold hex4? at hcode
        split at hcode
        next hall => exact List.all_eq_true.1 hall
        next => cases hcode
      refine .inl ⟨_, rest, by rw [hread]; rfl, ?_⟩
      exact (afterString_hex _ hhex after).trans hafter
    · exact .inr ⟨reason, rest, by rw [hread]; rfl⟩
  | case8 e after _ c _ ih =>
    obtain ⟨parts, rest, hread, hafter⟩ | ⟨reason, rest, hread⟩ := ih
    · exact .inl ⟨_, rest, by rw [hread]; rfl, hafter⟩
    · exact .inr ⟨reason, rest, by rw [hread]; rfl⟩
  | case11 p after hquote hend _ hslash _ ih =>
    obtain ⟨parts, rest, hread, hafter⟩ | ⟨reason, rest, hread⟩ := ih
    · refine .inl ⟨_, rest, by rw [hread]; rfl, ?_⟩
      rw [afterString_of_ne p after hquote, hafter]
      rintro rfl
      cases after with
      | nil => exact hend rfl rfl
      | cons e after => exact hslash e after rfl rfl
    · exact .inr ⟨reason, rest, by rw [hread]; rfl⟩

theorem readString_cases (start ps : List CodePoint) :
    (∃ s rest, readString start ps = .ok (s, rest) ∧ afterString ps = some rest) ∨
      ∃ reason rest, readString start ps = .error (.fault reason rest) := by
  unfold readString
  obtain ⟨parts, rest, hread, hafter⟩ | ⟨reason, rest, hread⟩ := readParts_cases start ps
  · exact .inl ⟨_, rest, by rw [hread]; rfl, hafter⟩
  · exact .inr ⟨reason, rest, by rw [hread]; rfl⟩

/-! ### Words and numbers -/

/-- The first characters of words and numbers. -/
def isHead (c : Char) : Bool := ['n', 't', 'f', 'N', 'I', '-'].contains c || isAsciiDigit c

theorem exists_word_of_readWord? (ps : List CodePoint) (r : Value × List CodePoint)
    (h : readWord? ps = some r) : ∃ w ∈ words, ∃ after, ps = codePoints w.1.toList ++ after := by
  obtain ⟨w, hw, hv⟩ := List.exists_of_findSome?_eq_some h
  split at hv
  next hprefix =>
    obtain ⟨after, rfl⟩ := List.isPrefixOf_iff_prefix.1 hprefix
    exact ⟨w, hw, after, rfl⟩
  next => cases hv

theorem head_of_readWord? (ps : List CodePoint) (r : Value × List CodePoint)
    (h : readWord? ps = some r) : ∃ c after, ps = .char c :: after ∧ isHead c := by
  obtain ⟨w, hw, after, rfl⟩ := exists_word_of_readWord? ps r h
  have hwords : ∀ w ∈ words, ∃ c, w.1.toList.head? = some c ∧ isHead c := by
    simp [words, isHead]
  obtain ⟨c, hhead, hc⟩ := hwords w hw
  obtain ⟨cs, hcs⟩ := List.head?_eq_some_iff.1 hhead
  rw [hcs]
  exact ⟨c, _, rfl, hc⟩

/-- A text that begins with a word does not begin with a number. -/
theorem readNumber?_of_readWord? (ps : List CodePoint) (r : Value × List CodePoint)
    (h : readWord? ps = some r) : readNumber? ps = none := by
  obtain ⟨w, hw, after, rfl⟩ := exists_word_of_readWord? ps r h
  simp only [words, List.mem_cons, List.not_mem_nil, or_false] at hw
  rcases hw with rfl | rfl | rfl | rfl | rfl | rfl <;> rfl

theorem head_of_wholeDigits? (ps : List CodePoint) (r : List Char × List CodePoint)
    (h : wholeDigits? ps = some r) : ∃ c after, ps = .char c :: after ∧ isHead c := by
  unfold wholeDigits? at h
  split at h
  next rest => exact ⟨'0', rest, rfl, rfl⟩
  next p rest _ =>
    cases p with
    | half n => cases h
    | char c =>
      refine ⟨c, rest, rfl, ?_⟩
      split at h
      next hc => simpa [isHead] using .inr hc
      next => cases h
  next => cases h

theorem head_of_readNumber? (ps : List CodePoint) (r : Except Stop (Value × List CodePoint))
    (h : readNumber? ps = some r) : ∃ c after, ps = .char c :: after ∧ isHead c := by
  unfold readNumber? at h
  split at h
  next negative unsigned hsign =>
    split at hsign
    next rest => exact ⟨'-', rest, rfl, rfl⟩
    next =>
      obtain ⟨-, rfl⟩ := Prod.mk.inj hsign
      cases hwhole : wholeDigits? ps with
      | none => simp [hwhole] at h
      | some whole => exact head_of_wholeDigits? ps whole hwhole

/-- A number stops the reader only if it is too long. -/
theorem tooLong_of_readNumber? (ps : List CodePoint) (stop : Stop)
    (h : readNumber? ps = some (.error stop)) : ∃ n, stop = .numeral (.tooLong n) := by
  unfold readNumber? at h
  split at h
  split at h
  next => cases h
  next =>
    split at h
    next =>
      split at h
      · exact ⟨_, by simpa using h.symm⟩
      · simp at h
    next => simp at h
    next => simp at h

section Places

variable (limit k : Nat) (c : Char) (ps : List CodePoint)

theorem next?_between (h : isBetween c) : next? limit (k, .char c :: ps) = some (k, ps) := by
  have hmem : c ∈ [' ', '\t', '\n', '\r', ',', ':'] := by
    simpa [isBetween, isJsonBlank, or_assoc] using h
  simp only [List.mem_cons, List.not_mem_nil, or_false] at hmem
  rcases hmem with rfl | rfl | rfl | rfl | rfl | rfl <;> rfl

theorem next?_head (h : isHead c) :
    next? limit (k, .char c :: ps) =
      match readWord? (.char c :: ps), readNumber? (.char c :: ps) with
      | some (_, rest), _ | none, some (.ok (_, rest)) => some (k, rest)
      | none, _ => none := by
  have hne (b : Char) (hb : isHead b = false) : c ≠ b := by
    rintro rfl
    simp [hb] at h
  have hbetween : isBetween c = false := by
    simp [isBetween, isJsonBlank, hne ' ' rfl, hne '\t' rfl, hne '\n' rfl, hne '\r' rfl,
      hne ',' rfl, hne ':' rfl]
  have hmarks : c ≠ '"' ∧ c ≠ '[' ∧ c ≠ '\x7b' ∧ c ≠ ']' ∧ c ≠ '\x7d' :=
    ⟨hne '"' rfl, hne '[' rfl, hne '\x7b' rfl, hne ']' rfl, hne '\x7d' rfl⟩
  cases k <;> simp [next?, hmarks, CodePoint.is, hbetween]

end Places

theorem leads_skipBlank (limit k : Nat) (ps : List CodePoint) :
    Leads limit (k, ps) (k, skipBlank ps) := by
  induction ps with
  | nil => exact .refl
  | cons p ps ih =>
    unfold skipBlank at ih ⊢
    rw [List.dropWhile_cons]
    split
    next hblank =>
      cases p with
      | half n => cases hblank
      | char c =>
        have hc : isBetween c := by
          change isJsonBlank c at hblank
          simp [isBetween, hblank]
        exact .head (next?_between limit k c ps hc) ih
    next => exact .refl

end DotPath.Json

import DotPath.Proofs.Numeral
import DotPath.Proofs.Segment.Scan

set_option autoImplicit false

/-!
Segments and their raw form. A *proper* segment has a word for its key and a natural number of at
most `digitLimit` digits for its index, if any. Reading gives proper segments only, and gives a
proper segment back from its plainest raw form.
-/

namespace DotPath.Segment

open Number Text

/-- A segment that a path can name. -/
structure Proper (s : Segment) : Prop where
  key : IsWord s.key.toList
  index : ∀ i ∈ s.index, ∃ n : Nat, i = n ∧ (digits n).length ≤ digitLimit

theorem readIndex_digits (ds : List Char) (hne : ds ≠ []) (h : ∀ c ∈ ds, isAsciiDigit c) :
    readIndex ds =
      if digitLimit < ds.length then .error (.crash (.numeral (.tooLong ds.length)))
      else .ok (some (ofDigits 10 ds : Nat)) := by
  rw [readIndex, if_neg (by simpa using hne), readInteger_digits ds hne h]
  by_cases hl : digitLimit < ds.length
  · rw [if_pos hl, if_pos hl]
  · rw [if_neg hl, if_neg hl]

theorem parse_of_lastWord? (raw : String) (key ds : List Char)
    (h : lastWord? raw.toList = some (key, ds)) :
    parse raw = (fun index => ⟨String.ofList key, index⟩) <$> readIndex ds := by
  simp [parse, h]

theorem parse_of_none (raw : String) (h : lastWord? raw.toList = none) :
    parse raw = .error (Problem.invalidSegment raw).failure := by
  simp [parse, h]

theorem proper_of_parse (raw : String) (s : Segment) (h : parse raw = .ok s) : s.Proper := by
  cases hl : lastWord? raw.toList with
  | none => simp [parse_of_none raw hl] at h
  | some word =>
    obtain ⟨key, ds⟩ := word
    obtain ⟨hkey, hds⟩ := isWord_of_lastWord? _ _ _ hl
    rw [parse_of_lastWord? raw key ds hl] at h
    by_cases hne : ds = []
    · subst hne
      cases h
      exact ⟨by simpa using hkey, by simp⟩
    · rw [readIndex_digits ds hne hds] at h
      split at h
      · simp at h
      next hlen =>
        cases h
        refine ⟨by simpa using hkey, ?_⟩
        rintro i ⟨⟩
        have hle := length_digits_ofDigits ds hne hds
        exact ⟨ofDigits 10 ds, rfl, by omega⟩

theorem lastWord?_of_isWord (w : List Char) (hw : IsWord w) : lastWord? w = some (w, []) := by
  have h := lastWord?_word w [] hw (by simp [WordEnds]) (by simp)
  simpa [lastWord?_of_forall_not [] (by simp)] using h

theorem lastWord?_indexed (w ds : List Char) (hw : IsWord w) (h : ∀ c ∈ ds, isAsciiDigit c) :
    lastWord? (w ++ '#' :: ds) = some (w, ds) := by
  have hd : ds.dropWhile isAsciiDigit = [] := List.dropWhile_eq_nil_iff.2 h
  have ht : ds.takeWhile isAsciiDigit = ds := List.takeWhile_eq_self_iff.2 h
  rw [lastWord?_word_sharp w ds hw, hd, ht, lastWord?_of_forall_not [] (by simp)]
  rfl

theorem parse_render (s : Segment) (h : s.Proper) : parse s.render = .ok s := by
  obtain ⟨key, index⟩ := s
  cases index with
  | none =>
    have hl : lastWord? key.toList = some (key.toList, []) := lastWord?_of_isWord _ h.key
    rw [render, parse_of_lastWord? _ _ _ hl, String.ofList_toList]
    rfl
  | some i =>
    obtain ⟨n, rfl, hn⟩ := h.index i rfl
    have hl := lastWord?_indexed key.toList (digits n) h.key (isAsciiDigit_of_mem_digits n)
    have hr := readIndex_digits (digits n) (digits_ne_nil n) (isAsciiDigit_of_mem_digits n)
    rw [if_neg (by omega), ofDigits_digits] at hr
    rw [render, parse_of_lastWord? _ key.toList (digits n) (by simpa using hl), hr,
      String.ofList_toList]
    rfl

theorem dot_notMem_render (s : Segment) (h : s.Proper) : '.' ∉ s.render.toList := by
  have hkey : '.' ∉ s.key.toList := fun hd => by
    have hw := h.key.word '.' hd
    revert hw
    decide
  obtain ⟨key, index⟩ := s
  cases index with
  | none => exact hkey
  | some i =>
    obtain ⟨n, rfl, -⟩ := h.index i rfl
    have hn : '.' ∉ digits n := fun hd => by
      have hc := isAsciiDigit_of_mem_digits n '.' hd
      revert hc
      decide
    simpa [render, hn] using hkey

end DotPath.Segment

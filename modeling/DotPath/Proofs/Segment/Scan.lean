import DotPath.Path.Segment
import Mathlib

set_option autoImplicit false

/-!
How the scan of a raw segment goes on after each piece, and what this means for its last word. A
text has a last word just when it has a word character, and what the scan takes for a word or an
index is one.
-/

namespace DotPath.Segment

open Text

/-- The text does not go on with a word character. -/
def WordEnds (rest : List Char) : Prop := ∀ c ∈ rest.head?, ¬ isWordChar c

/-- Word characters alone, at least one. -/
structure IsWord (w : List Char) : Prop where
  ne_nil : w ≠ []
  word : ∀ c ∈ w, isWordChar c

theorem isWordChar_of_digit (c : Char) (h : isAsciiDigit c) : isWordChar c := by
  have hd : c.isDigit := h
  simp [isWordChar, Char.isAlphanum, hd]

theorem not_isWordChar_sharp : ¬ isWordChar '#' := by decide

theorem wordEnds_sharp (rest : List Char) : WordEnds ('#' :: rest) := by
  intro c hc
  cases hc
  exact not_isWordChar_sharp

theorem wordEnds_of_forall_not (rest : List Char) (h : ∀ c ∈ rest, ¬ isWordChar c) :
    WordEnds rest := fun c hc => h c (List.mem_of_mem_head? hc)

theorem wordEnds_dropWhile (cs : List Char) : WordEnds (cs.dropWhile isWordChar) := by
  intro c hc
  have hnot := List.head?_dropWhile_not isWordChar cs
  rw [Option.mem_def.1 hc] at hnot
  simpa using hnot

theorem takeWhile_word (w rest : List Char) (hw : ∀ c ∈ w, isWordChar c) (hr : WordEnds rest) :
    (w ++ rest).takeWhile isWordChar = w := by
  rw [List.takeWhile_append_of_pos hw]
  cases rest with
  | nil => simp
  | cons c rest => simp [hr c rfl]

theorem dropWhile_word (w rest : List Char) (hw : ∀ c ∈ w, isWordChar c) (hr : WordEnds rest) :
    (w ++ rest).dropWhile isWordChar = rest := by
  rw [List.dropWhile_append_of_pos hw]
  cases rest with
  | nil => simp
  | cons c rest => simp [hr c rfl]

theorem scan_noise (c : Char) (cs : List Char) (h : ¬ isWordChar c) :
    scan (c :: cs) = .noise c :: scan cs := by
  rw [scan, if_neg h]

theorem scan_word_sharp (w rest : List Char) (hw : IsWord w) :
    scan (w ++ '#' :: rest) =
      .word w true (rest.takeWhile isAsciiDigit) :: scan (rest.dropWhile isAsciiDigit) := by
  obtain ⟨c, w, rfl⟩ := List.exists_cons_of_ne_nil hw.ne_nil
  have hc := hw.word c (by simp)
  have ht : ∀ c ∈ w, isWordChar c := fun c h => hw.word c (by simp [h])
  rw [List.cons_append, scan, if_pos hc]
  simp only [takeWhile_word w _ ht (wordEnds_sharp rest)]
  split
  next h =>
    rw [dropWhile_word w _ ht (wordEnds_sharp rest), List.cons.injEq] at h
    rw [h.2]
  next h => exact absurd (dropWhile_word w _ ht (wordEnds_sharp rest)) (h rest)

theorem scan_word (w rest : List Char) (hw : IsWord w) (hr : WordEnds rest)
    (hs : rest.head? ≠ some '#') : scan (w ++ rest) = .word w false [] :: scan rest := by
  obtain ⟨c, w, rfl⟩ := List.exists_cons_of_ne_nil hw.ne_nil
  have hc := hw.word c (by simp)
  have ht : ∀ c ∈ w, isWordChar c := fun c h => hw.word c (by simp [h])
  rw [List.cons_append, scan, if_pos hc]
  simp only [takeWhile_word w _ ht hr]
  split
  next h =>
    rw [dropWhile_word w _ ht hr] at h
    simp [h] at hs
  next => rw [dropWhile_word w _ ht hr]

theorem lastWord?_noise (c : Char) (cs : List Char) (h : ¬ isWordChar c) :
    lastWord? (c :: cs) = lastWord? cs := by
  simp [lastWord?, scan_noise c cs h, Piece.word?]

theorem lastWord?_word_sharp (w rest : List Char) (hw : IsWord w) :
    lastWord? (w ++ '#' :: rest) =
      some ((lastWord? (rest.dropWhile isAsciiDigit)).getD (w, rest.takeWhile isAsciiDigit)) := by
  simp [lastWord?, scan_word_sharp w rest hw, Piece.word?, List.getLast?_cons]

theorem lastWord?_word (w rest : List Char) (hw : IsWord w) (hr : WordEnds rest)
    (hs : rest.head? ≠ some '#') :
    lastWord? (w ++ rest) = some ((lastWord? rest).getD (w, [])) := by
  simp [lastWord?, scan_word w rest hw hr hs, Piece.word?, List.getLast?_cons]

theorem lastWord?_of_forall_not (cs : List Char) (h : ∀ c ∈ cs, ¬ isWordChar c) :
    lastWord? cs = none := by
  induction cs with
  | nil => simp [lastWord?, scan]
  | cons c cs ih =>
    rw [lastWord?_noise c cs (h c (by simp))]
    exact ih fun d hd => h d (by simp [hd])

theorem not_isWordChar_of_noise (cs : List Char) (c : Char) (h : .noise c ∈ scan cs) :
    ¬ isWordChar c := by
  fun_induction scan cs with
  | case1 => simp at h
  | case2 d cs hd word rest _ ih => exact ih (by simpa using h)
  | case3 d cs hd word _ ih => exact ih (by simpa using h)
  | case4 d cs hd ih =>
    rcases List.mem_cons.1 h with h | h
    · cases h
      exact hd
    · exact ih h

/-- A text has a last word unless all of it is noise. -/
theorem lastWord?_eq_none_iff (cs : List Char) :
    lastWord? cs = none ↔ ∀ c ∈ cs, ¬ isWordChar c := by
  refine ⟨fun h c hc => ?_, lastWord?_of_forall_not cs⟩
  rw [lastWord?, List.getLast?_eq_none_iff, List.filterMap_eq_nil_iff] at h
  rw [← text_scan cs] at hc
  obtain ⟨piece, hpiece, hc⟩ := List.mem_flatMap.1 hc
  cases piece with
  | word key sharp index => cases h _ hpiece
  | noise d =>
    obtain rfl := List.mem_singleton.1 hc
    exact not_isWordChar_of_noise cs c hpiece

theorem isWord_takeWhile (c : Char) (cs : List Char) (hc : isWordChar c) :
    IsWord (c :: cs.takeWhile isWordChar) := by
  refine ⟨by simp, fun d hd => ?_⟩
  rcases List.mem_cons.1 hd with rfl | hd
  · exact hc
  · exact List.mem_takeWhile_imp hd

/-- What a word piece of a scan holds. -/
theorem isWord_of_mem_scan (cs key ds : List Char) (sharp : Bool)
    (h : .word key sharp ds ∈ scan cs) : IsWord key ∧ ∀ c ∈ ds, isAsciiDigit c := by
  fun_induction scan cs with
  | case1 => simp at h
  | case2 c cs hc word rest _ ih =>
    rcases List.mem_cons.1 h with h | h
    · injection h with hk _ hd
      rw [hk, hd]
      exact ⟨isWord_takeWhile c cs hc, fun d hd => List.mem_takeWhile_imp hd⟩
    · exact ih h
  | case3 c cs hc word _ ih =>
    rcases List.mem_cons.1 h with h | h
    · injection h with hk _ hd
      rw [hk, hd]
      exact ⟨isWord_takeWhile c cs hc, by simp⟩
    · exact ih h
  | case4 c cs hc ih => exact ih (by simpa using h)

theorem isWord_of_lastWord? (cs key ds : List Char) (h : lastWord? cs = some (key, ds)) :
    IsWord key ∧ ∀ c ∈ ds, isAsciiDigit c := by
  obtain ⟨p, hp, hw⟩ := List.mem_filterMap.1 (List.mem_of_getLast? h)
  cases p with
  | word key' sharp ds' =>
    obtain ⟨rfl, rfl⟩ : key' = key ∧ ds' = ds := by simpa [Piece.word?] using hw
    exact isWord_of_mem_scan cs key' ds' sharp hp
  | noise c => simp [Piece.word?] at hw

end DotPath.Segment

import DotPath.Proofs.Segment.Occurrence
import DotPath.Text.Pattern

set_option autoImplicit false

/-!
The scan of a raw segment as a search. A word with its `#` and its index is a part of the text that
a pattern accepts; the scan finds the first and longest such part, and again from where it ends.
`scan_partitions_word_characters` says that it loses no word character, takes none twice and cuts no
run of them but between an index and a key.
-/

namespace DotPath

open Text

namespace Text.Pattern

/-- From place `i` on, `start` is the first place where a part of the text is accepted, and `stop`
is where the longest such part ends. -/
structure Finds (p : Pattern) (text : List Char) (i start stop : Nat) : Prop where
  le : i ≤ start
  stop_le : stop ≤ text.length
  accepts : p.accepts (text.extract start stop)
  longest : ∀ j, stop < j → j ≤ text.length → ¬ p.accepts (text.extract start j)
  first : ∀ k, i ≤ k → k < start → ∀ j, ¬ p.accepts (text.extract k j)

/-- The parts of a text that a search from place `i` on finds until nothing more is accepted, each
time going on where the last part ended. -/
inductive FindsAll (p : Pattern) (text : List Char) : Nat → List (Nat × Nat) → Prop where
  | done (i : Nat) (h : ∀ k, i ≤ k → ∀ j, ¬ p.accepts (text.extract k j)) : FindsAll p text i []
  | next (i start stop : Nat) (spans : List (Nat × Nat)) (h : p.Finds text i start stop)
    (hs : FindsAll p text stop spans) : FindsAll p text i ((start, stop) :: spans)

end Text.Pattern

namespace Segment

/-- A word, a `#` or none, and digits or none. Each of the three is best taken as long as it goes,
so that a greedy match is the longest. -/
def pattern : Pattern :=
  .all [.repeated (.one isWordChar), .optional (.char '#'),
    .optional (.repeated (.one isAsciiDigit))]

theorem accepts_pattern_iff (cs : List Char) :
    pattern.accepts cs ↔ ∃ key sharp ds, IsWord key ∧ (∀ d ∈ ds, isAsciiDigit d) ∧
      cs = (Piece.word key sharp ds).text := by
  have hdigits : ∀ ds : List Char, (ds ≠ [] ∧ ∀ d ∈ ds, isAsciiDigit d) ∨ ds = [] ↔
      ∀ d ∈ ds, isAsciiDigit d := fun ds => by
    rcases eq_or_ne ds [] with rfl | hne
    · simp
    · simp [hne]
  simp only [pattern, Pattern.all, List.foldr, Pattern.accepts_seq, Pattern.accepts_optional,
    Pattern.accepts_repeated_one, Pattern.accepts_done, Pattern.char, Pattern.accepts_one, hdigits]
  constructor
  · rintro ⟨key, _, rfl, ⟨hne, hword⟩, sharp, _, rfl, hsharp, ds, _, rfl, hds, rfl⟩
    rcases hsharp with ⟨c, rfl, hc⟩ | rfl
    · obtain rfl : c = '#' := by simpa using hc
      exact ⟨key, true, ds, ⟨hne, hword⟩, hds, by simp [Piece.text]⟩
    · exact ⟨key, false, ds, ⟨hne, hword⟩, hds, by simp [Piece.text]⟩
  · rintro ⟨key, sharp, ds, hkey, hds, rfl⟩
    refine ⟨key, _, List.append_assoc .., ⟨hkey.ne_nil, hkey.word⟩, _, ds, rfl, ?_, ds, [], by simp,
      hds, rfl⟩
    cases sharp <;> simp

/-- What the pattern accepts begins with a word character. -/
theorem isWordChar_of_accepts (text : List Char) (i j : Nat)
    (h : pattern.accepts (text.extract i j)) : ∃ c, text[i]? = some c ∧ isWordChar c := by
  obtain ⟨key, sharp, ds, hkey, -, hcs⟩ := (accepts_pattern_iff _).1 h
  obtain ⟨c, key, rfl⟩ := List.exists_cons_of_ne_nil hkey.ne_nil
  have hhead : ((text.drop i).take (j - i))[0]? = some c := by
    rw [← List.extract_eq_take_drop, hcs]
    rfl
  refine ⟨c, ?_, hkey.word c (by simp)⟩
  rw [List.getElem?_take] at hhead
  split at hhead
  · simpa using hhead
  · cases hhead

namespace Occurrence.Stands

variable {o : Occurrence} {text : List Char}

theorem exists_drop_span (h : o.Stands text) :
    ∃ more, text.drop o.start = (Piece.word o.key o.sharp o.index).text ++ more := by
  rw [h.drop_start]
  cases hs : o.sharp with
  | false =>
    have hindex := h.index_of_not_sharp (by simp [hs])
    exact ⟨text.drop o.keyStop, by simp [Piece.text, hindex]⟩
  | true =>
    have hsharp : (text.drop o.keyStop).head? = some '#' := by
      rw [List.head?_drop]
      exact h.sharp_iff.1 hs
    obtain ⟨rest, hrest⟩ := List.head?_eq_some_iff.1 hsharp
    have hnext : text.drop (o.keyStop + 1) = rest := by
      rw [← List.drop_drop, hrest, List.drop_one, List.tail_cons]
    refine ⟨rest.dropWhile isAsciiDigit, ?_⟩
    rw [hrest, h.index_eq hs, hnext]
    simp [Piece.text]

theorem length_le_of_word (h : o.Stands text) (w more : List Char) (hw : ∀ c ∈ w, isWordChar c)
    (htext : text.drop o.start = w ++ more) : w.length ≤ o.key.length := by
  rw [← h.takeWhile_start, htext, List.takeWhile_append_of_pos hw, List.length_append]
  omega

theorem length_le_of_sharp (h : o.Stands text) (w ds more : List Char) (hw : IsWord w)
    (hds : ∀ d ∈ ds, isAsciiDigit d) (htext : text.drop o.start = w ++ '#' :: (ds ++ more)) :
    w = o.key ∧ o.sharp ∧ ds.length ≤ o.index.length := by
  have hkey : w = o.key := by
    rw [← h.takeWhile_start, htext, takeWhile_word w _ hw.word (wordEnds_sharp _)]
  have hrest : text.drop o.keyStop = '#' :: (ds ++ more) := by
    rw [h.drop_start, hkey] at htext
    exact List.append_cancel_left htext
  have hsharp : o.sharp := by
    rw [h.sharp_iff, ← List.head?_drop, hrest]
    rfl
  refine ⟨hkey, hsharp, ?_⟩
  rw [h.index_eq hsharp, ← List.drop_drop, hrest, List.drop_one, List.tail_cons,
    List.takeWhile_append_of_pos hds, List.length_append]
  omega

/-- Nothing that begins where a match does and that the pattern accepts is longer. -/
theorem length_le_of_accepts (h : o.Stands text) (xs more : List Char)
    (hxs : pattern.accepts xs) (htext : text.drop o.start = xs ++ more) :
    o.start + xs.length ≤ o.stop := by
  obtain ⟨key, sharp, ds, hkey, hds, rfl⟩ := (accepts_pattern_iff xs).1 hxs
  rw [o.stop_eq, keyStop]
  cases sharp with
  | false =>
    -- Digits right behind a word are word characters, so the two are within one key.
    have hword : ∀ c ∈ key ++ ds, isWordChar c := fun c hc => by
      rcases List.mem_append.1 hc with hc | hc
      · exact hkey.word c hc
      · exact isWordChar_of_digit c (hds c hc)
    have hle := h.length_le_of_word (key ++ ds) more hword (by simpa [Piece.text] using htext)
    simp only [Piece.text, Bool.false_eq_true, if_false, List.append_nil]
    omega
  | true =>
    obtain ⟨rfl, hsharp, hle⟩ :=
      h.length_le_of_sharp key ds more hkey hds (by simpa [Piece.text] using htext)
    simp only [Piece.text, hsharp, if_true, List.length_append, List.length_singleton]
    omega

theorem finds (h : o.Stands text) (i : Nat) (hle : i ≤ o.start)
    (hfirst : ∀ k, i ≤ k → k < o.start → ∀ j, ¬ pattern.accepts (text.extract k j)) :
    pattern.Finds text i o.start o.stop := by
  obtain ⟨more, hmore⟩ := h.exists_drop_span
  have hlen := congrArg List.length hmore
  have hspan : o.stop = o.start + (Piece.word o.key o.sharp o.index).text.length := rfl
  rw [List.length_drop, List.length_append] at hlen
  refine ⟨hle, ?_, ?_, fun j hj hlej haccepts => ?_, hfirst⟩
  · have hlt := h.start_lt_keyStop
    have hkeyStop := o.stop_eq
    omega
  · rw [List.extract_eq_take_drop, hmore, stop, Nat.add_sub_cancel_left, List.take_left]
    exact (accepts_pattern_iff _).2
      ⟨o.key, o.sharp, o.index, h.key, h.isAsciiDigit_of_mem_index, rfl⟩
  · have htext := (List.take_append_drop (j - o.start) (text.drop o.start)).symm
    have hle := h.length_le_of_accepts _ _ haccepts htext
    rw [List.extract_eq_take_drop, List.length_take, List.length_drop] at hle
    omega

end Occurrence.Stands

theorem CutFrom.findsAll {text : List Char} {i : Nat} {words : List Occurrence}
    (h : CutFrom text i words) : pattern.FindsAll text i (words.map Occurrence.span) := by
  induction words generalizing i with
  | nil =>
    refine .done i fun k hk j haccepts => ?_
    obtain ⟨c, hc, hword⟩ := isWordChar_of_accepts text k j haccepts
    obtain ⟨o, ho, -⟩ := h.covered k c hk hc hword
    cases ho
  | cons o words ih =>
    have hfirst : ∀ k, i ≤ k → k < o.start → ∀ j, ¬ pattern.accepts (text.extract k j) :=
      fun k hk hlt j haccepts => by
        obtain ⟨c, hc, hword⟩ := isWordChar_of_accepts text k j haccepts
        exact h.not_isWordChar_before k c hk hlt hc hword
    have hfinds := (h.stands o (by simp)).finds i (h.le_start o (by simp)) hfirst
    exact .next i o.start o.stop _ hfinds (ih h.tail)

/-- The scan finds the matches of the pattern one after the other. Each word character of the text
is in one of them and no other, in its key or in its index, and nothing else is in a key or an
index; the scan ends, and the last match is the word that counts. -/
theorem scan_partitions_word_characters (text : List Char) :
    pattern.FindsAll text 0 ((occurrences text).map Occurrence.span) ∧
    ((occurrences text).Pairwise fun o p => o.stop ≤ p.start) ∧
    (∀ o ∈ occurrences text, o.Stands text) ∧
    (∀ i c, text[i]? = some c → isWordChar c →
      ∃ o ∈ occurrences text, o.Spans i ∧ Xor (o.InKey i) (o.InIndex i) ∧
        ∀ p ∈ occurrences text, p.Spans i → p = o) ∧
    (∀ i c, text[i]? = some c →
      ((∀ o ∈ occurrences text, ¬ o.InKey i ∧ ¬ o.InIndex i) ↔ ¬ isWordChar c)) ∧
    (occurrences text).flatMap (fun o => o.key ++ o.index) = text.filter isWordChar ∧
    (scan text).length ≤ text.length ∧
    lastWord? text = (occurrences text).getLast?.map fun o => (o.key, o.index) := by
  have hcut := cutFrom_occurrences text
  refine ⟨hcut.findsAll, hcut.ordered, hcut.stands, fun i c hc hword => ?_, fun i c hc => ?_,
    flatMap_located 0 text, length_scan_le text, lastWord?_eq_getLast? text⟩
  · obtain ⟨o, ho, htaken⟩ := hcut.covered i c (Nat.zero_le i) hc hword
    have hspans := (hcut.stands o ho).spans_of_taken i htaken
    exact ⟨o, ho, hspans, o.xor_of_taken i htaken,
      fun p hp hi => hcut.eq_of_spans hp ho i hi hspans⟩
  · constructor
    · intro hnone hword
      obtain ⟨o, ho, htaken⟩ := hcut.covered i c (Nat.zero_le i) hc hword
      exact htaken.elim (hnone o ho).1 (hnone o ho).2
    · intro hnoise o ho
      have htaken := (hcut.stands o ho).isWordChar_of_taken i c hc
      exact ⟨fun hi => hnoise (htaken (.inl hi)), fun hi => hnoise (htaken (.inr hi))⟩

/-- An index and a key share the run `1y`, and the `3` behind the `#` that follows an index is a
key. -/
theorem scan_partitions_word_characters_shared_run :
    let text := "x#1y#2#3-é_z#".toList
    let words : List Occurrence := [⟨0, ['x'], true, ['1']⟩, ⟨3, ['y'], true, ['2']⟩,
      ⟨7, ['3'], false, []⟩, ⟨10, ['_', 'z'], true, []⟩]
    occurrences text = words ∧ text[2]? = some '1' ∧ isWordChar '1' ∧ text[6]? = some '#' ∧
      pattern.FindsAll text 0 [(0, 3), (3, 6), (7, 8), (10, 13)] ∧
      (∃ o ∈ words, o.Spans 2 ∧ Xor (o.InKey 2) (o.InIndex 2) ∧ ∀ p ∈ words, p.Spans 2 → p = o) ∧
      ((∀ o ∈ words, ¬ o.InKey 6 ∧ ¬ o.InIndex 6) ↔ ¬ isWordChar '#') := by
  intro text words
  have hwords : occurrences text = words := by decide +kernel
  have h := scan_partitions_word_characters text
  rw [hwords] at h
  obtain ⟨hfinds, -, -, hin, hout, -⟩ := h
  have hone : text[2]? = some '1' := by decide +kernel
  have hsharp : text[6]? = some '#' := by decide +kernel
  exact ⟨hwords, hone, by decide, hsharp, hfinds, hin 2 '1' hone (by decide), hout 6 '#' hsharp⟩

end Segment

end DotPath

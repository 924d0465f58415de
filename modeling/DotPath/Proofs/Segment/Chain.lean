import DotPath.Proofs.Segment.Parse

set_option autoImplicit false

/-!
The segment of a raw text in closed form. A text is cut around its last *chain*: the runs of word
characters up to the last one, as far back as a single `#` joins each to the next. Whether the
digits at the head of a run are the index of the word before depends on how many runs of digits
alone stand before it. `parse_eq_readChain` says that nothing else of the text counts.
-/

namespace DotPath.Segment

open Number Text

/-- The text ends neither in a word character nor in one with a `#` after it, so that no word
that follows is longer for it, nor a chain. -/
def Apart (before : List Char) : Prop :=
  ∀ b c, isWordChar c → before ≠ b ++ [c] ∧ before ≠ b ++ [c, '#']

/-- A text cut around its last chain. -/
structure Chain (text : List Char) where
  before : List Char
  runs : List (List Char)
  after : List Char
  text_eq : text = before ++ ['#'].intercalate runs ++ after
  apart : Apart before
  ne_nil : runs ≠ []
  word : ∀ r ∈ runs, IsWord r
  blank : ∀ c ∈ after, ¬ isWordChar c

namespace Chain

section Reading

variable (runs : List (List Char))

def run (k : Nat) : List Char := runs.getD k []

/-- How many runs of digits alone stand right before run `k`, the first run not counted. -/
def digitsBefore (k : Nat) : Nat :=
  (((runs.take k).drop 1).reverse.takeWhile (·.all isAsciiDigit)).length

/-- The digits at the head of run `k` are the index of the word before. -/
def Indexed (k : Nat) : Prop := 0 < k ∧ Even (digitsBefore runs k)

instance (k : Nat) : Decidable (Indexed runs k) := inferInstanceAs (Decidable (_ ∧ _))

/-- What run `k` leaves for a word of its own. -/
def tail (k : Nat) : List Char :=
  if Indexed runs k then (run runs k).dropWhile isAsciiDigit else run runs k

/-- The last run is used up by the index of the word before. -/
def EndsInIndex : Prop :=
  0 < runs.length - 1 ∧ Indexed runs (runs.length - 1) ∧ tail runs (runs.length - 1) = []

instance : Decidable (EndsInIndex runs) := inferInstanceAs (Decidable (_ ∧ _ ∧ _))

/-- The segment that a chain is read as. -/
def readChain : Except Failure Segment :=
  let n := runs.length - 1
  if EndsInIndex runs then
    if digitLimit < (run runs n).length then
      .error (.crash (.numeral (.tooLong (run runs n).length)))
    else .ok ⟨String.ofList (tail runs (n - 1)), some (Nat.ofDigitChars 10 (run runs n) 0 : Nat)⟩
  else .ok ⟨String.ofList (tail runs n), none⟩

end Reading

section Runs

variable {runs : List (List Char)}

theorem run_eq_getElem (k : Nat) (hk : k < runs.length) : run runs k = runs[k] := by
  simp [run, hk]

theorem isWord_run (hw : ∀ r ∈ runs, IsWord r) (k : Nat) (hk : k < runs.length) :
    IsWord (run runs k) := by
  rw [run_eq_getElem k hk]
  exact hw _ (List.getElem_mem hk)

theorem not_indexed_zero (runs : List (List Char)) : ¬ Indexed runs 0 :=
  fun h => absurd h.1 (by decide)

theorem tail_of_not_indexed (k : Nat) (h : ¬ Indexed runs k) : tail runs k = run runs k :=
  if_neg h

theorem tail_of_indexed (k : Nat) (h : Indexed runs k) :
    tail runs k = (run runs k).dropWhile isAsciiDigit := if_pos h

theorem digitsBefore_succ (k : Nat) (hpos : 0 < k) (hk : k < runs.length) :
    digitsBefore runs (k + 1) =
      if (run runs k).all isAsciiDigit then digitsBefore runs k + 1 else 0 := by
  have hd : (runs.take (k + 1)).drop 1 = (runs.take k).drop 1 ++ [run runs k] := by
    rw [List.take_succ_eq_append_getElem hk, List.drop_append_of_le_length, run_eq_getElem k hk]
    rw [List.length_take]
    omega
  rw [digitsBefore, hd, List.reverse_append, List.reverse_singleton, List.singleton_append,
    List.takeWhile_cons]
  split
  · rw [List.length_cons, digitsBefore]
  · rfl

/-- Each run is indexed but the one after a run that is used up by its index. -/
theorem indexed_succ_iff (k : Nat) (hk : k < runs.length) :
    Indexed runs (k + 1) ↔ ¬ (Indexed runs k ∧ tail runs k = []) := by
  rcases Nat.eq_zero_or_pos k with rfl | hpos
  · have h0 : digitsBefore runs 1 = 0 := by
      rw [digitsBefore, List.drop_eq_nil_of_le (by rw [List.length_take]; omega)]
      rfl
    simp [Indexed, h0]
  · have hall : (run runs k).dropWhile isAsciiDigit = [] ↔ (run runs k).all isAsciiDigit := by
      rw [List.dropWhile_eq_nil_iff, List.all_eq_true]
    rw [Indexed, digitsBefore_succ k hpos hk]
    by_cases ha : (run runs k).all isAsciiDigit
    · by_cases hi : Indexed runs k
      · simp [ha, hi, tail_of_indexed k hi, hall.2 ha, Nat.even_add_one, hi.2]
      · have hodd : ¬ Even (digitsBefore runs k) := fun he => hi ⟨hpos, he⟩
        simp [ha, hi, Nat.even_add_one, hodd]
    · have hne : Indexed runs k → tail runs k ≠ [] := fun hi => by
        rw [tail_of_indexed k hi]
        exact fun h => ha (hall.1 h)
      simp only [ha]
      simpa using hne

theorem isWord_tail (hw : ∀ r ∈ runs, IsWord r) (k : Nat) (hk : k < runs.length)
    (ht : tail runs k ≠ []) : IsWord (tail runs k) := by
  have hr := isWord_run hw k hk
  by_cases hi : Indexed runs k
  · refine ⟨ht, fun c hc => hr.word c ?_⟩
    rw [tail_of_indexed k hi] at hc
    exact List.dropWhile_subset _ hc
  · rwa [tail_of_not_indexed k hi]

/-- The word before an index is there. -/
theorem tail_ne_nil_of_indexed_succ (hw : ∀ r ∈ runs, IsWord r) (k : Nat) (hk : k < runs.length)
    (h : Indexed runs (k + 1)) : tail runs k ≠ [] := by
  by_cases hi : Indexed runs k
  · exact fun ht => (indexed_succ_iff k hk).1 h ⟨hi, ht⟩
  · rw [tail_of_not_indexed k hi]
    exact (isWord_run hw k hk).ne_nil

/-- What follows run `k` in the text. -/
def rest (runs : List (List Char)) (after : List Char) (k : Nat) : List Char :=
  (runs.drop (k + 1)).flatMap ('#' :: ·) ++ after

variable {after : List Char}

theorem rest_of_lt (k : Nat) (hk : k + 1 < runs.length) :
    rest runs after k = '#' :: (run runs (k + 1) ++ rest runs after (k + 1)) := by
  rw [rest, List.drop_eq_getElem_cons hk, List.flatMap_cons, run_eq_getElem _ hk]
  simp [rest]

theorem rest_of_last (k : Nat) (hk : runs.length ≤ k + 1) : rest runs after k = after := by
  rw [rest, List.drop_eq_nil_of_le hk]
  rfl

theorem wordEnds_rest (runs : List (List Char)) (ha : ∀ c ∈ after, ¬ isWordChar c) (k : Nat) :
    WordEnds (rest runs after k) := by
  by_cases hk : k + 1 < runs.length
  · rw [rest_of_lt k hk]
    exact wordEnds_sharp _
  · rw [rest_of_last k (by omega)]
    exact wordEnds_of_forall_not after ha

theorem intercalate_runs (hne : runs ≠ []) :
    ['#'].intercalate runs ++ after = run runs 0 ++ rest runs after 0 := by
  induction runs with
  | nil => exact absurd rfl hne
  | cons r rs ih =>
    cases rs with
    | nil => simp [run, rest]
    | cons q qs =>
      have hq := ih (by simp)
      rw [rest_of_lt 0 (by simp), List.intercalate_cons_cons, List.append_assoc,
        List.append_assoc, hq]
      simp [run, rest]

/-- A word with no word character after it is the last, and it has no index. -/
theorem lastWord?_last (w : List Char) (hw : IsWord w) (ha : ∀ c ∈ after, ¬ isWordChar c) :
    lastWord? (w ++ after) = some (w, []) := by
  have hno := lastWord?_of_forall_not after ha
  cases after with
  | nil => simpa [hno] using lastWord?_word w [] hw (by simp [WordEnds]) (by simp)
  | cons c cs =>
    by_cases hc : c = '#'
    · subst hc
      have hcs : ∀ d ∈ cs, ¬ isAsciiDigit d := fun d hd h =>
        ha d (by simp [hd]) (isWordChar_of_digit d h)
      have hd : cs.dropWhile isAsciiDigit = cs ∧ cs.takeWhile isAsciiDigit = [] := by
        cases cs with
        | nil => simp
        | cons d cs => simp [hcs d (by simp)]
      rw [lastWord?_word_sharp w cs hw, hd.1, hd.2,
        lastWord?_of_forall_not cs fun d h => ha d (by simp [h])]
      rfl
    · rw [lastWord?_word w _ hw (wordEnds_of_forall_not _ ha) (by simpa using hc), hno]
      rfl

/-- Digits after a `#` end with the run that they begin. -/
theorem dropWhile_run (w cs : List Char) (hr : WordEnds cs) :
    (w ++ cs).dropWhile isAsciiDigit = w.dropWhile isAsciiDigit ++ cs := by
  rw [List.dropWhile_append]
  split
  next h =>
    rw [List.isEmpty_iff.1 h, List.nil_append]
    cases cs with
    | nil => rfl
    | cons c cs =>
      have hc : ¬ isAsciiDigit c := fun h => hr c rfl (isWordChar_of_digit c h)
      simp [hc]
  next => rfl

theorem takeWhile_run (w cs : List Char) (hr : WordEnds cs) (hw : w.dropWhile isAsciiDigit = []) :
    (w ++ cs).takeWhile isAsciiDigit = w := by
  have h := List.takeWhile_append_dropWhile (p := isAsciiDigit) (l := w ++ cs)
  rw [dropWhile_run w cs hr, hw, List.nil_append] at h
  exact List.append_cancel_right h

/-- The last word of a chain with the digits of its index. -/
def lastOf (runs : List (List Char)) : List Char × List Char :=
  let n := runs.length - 1
  if EndsInIndex runs then (tail runs (n - 1), run runs n) else (tail runs n, [])

/-- From a word that a run leaves, the scan gets to the end of the chain. -/
theorem lastWord?_tail (hw : ∀ r ∈ runs, IsWord r) (ha : ∀ c ∈ after, ¬ isWordChar c) (k : Nat)
    (hk : k < runs.length) (ht : tail runs k ≠ []) :
    lastWord? (tail runs k ++ rest runs after k) = some (lastOf runs) := by
  have hword := isWord_tail hw k hk ht
  by_cases hn : k + 1 < runs.length
  · have hi : Indexed runs (k + 1) := (indexed_succ_iff k hk).2 fun h => ht h.2
    have hends := wordEnds_rest runs ha (k + 1)
    have hdrop := tail_of_indexed (k + 1) hi
    rw [rest_of_lt k hn, lastWord?_word_sharp _ _ hword, dropWhile_run _ _ hends, ← hdrop]
    by_cases htn : tail runs (k + 1) = []
    · -- The next run is used up; the one after it, if any, is read afresh.
      rw [takeWhile_run _ _ hends (hdrop ▸ htn), htn, List.nil_append]
      by_cases hnn : k + 2 < runs.length
      · have hni : ¬ Indexed runs (k + 2) := fun h => (indexed_succ_iff (k + 1) hn).1 h ⟨hi, htn⟩
        have htail := tail_of_not_indexed (k + 2) hni
        have hne : tail runs (k + 2) ≠ [] := htail ▸ (isWord_run hw (k + 2) hnn).ne_nil
        have ih := lastWord?_tail hw ha (k + 2) hnn hne
        rw [rest_of_lt (k + 1) hnn, lastWord?_noise _ _ not_isWordChar_sharp, ← htail, ih]
        rfl
      · have hlen : runs.length - 1 = k + 1 := by omega
        have hend : EndsInIndex runs := by
          rw [EndsInIndex, hlen]
          exact ⟨by omega, hi, htn⟩
        rw [rest_of_last (k + 1) (by omega), lastWord?_of_forall_not after ha, lastOf,
          if_pos hend, hlen]
        rfl
    · have ih := lastWord?_tail hw ha (k + 1) hn htn
      rw [ih]
      rfl
  · have hlen : runs.length - 1 = k := by omega
    have hend : ¬ EndsInIndex runs := fun h => ht (hlen ▸ h.2.2)
    rw [rest_of_last k (by omega), lastWord?_last _ hword ha, lastOf, if_neg hend, hlen]
termination_by runs.length - k

end Runs

end Chain

theorem Apart.of_append (xs ys : List Char) (h : Apart (xs ++ ys)) : Apart ys := by
  intro b c hc
  refine ⟨?_, ?_⟩ <;> rintro rfl
  · exact (h (xs ++ b) c hc).1 (by simp)
  · exact (h (xs ++ b) c hc).2 (by simp)

theorem Apart.exists_not_word (cs : List Char) (h : Apart cs) (hne : cs ≠ []) :
    ∃ c ∈ cs, ¬ isWordChar c := by
  obtain ⟨b, c, rfl⟩ := List.eq_nil_or_concat' cs |>.resolve_left hne
  exact ⟨c, by simp, fun hc => (h b c hc).1 rfl⟩

theorem Apart.exists_after_sharp (w cs : List Char) (hw : IsWord w) (h : Apart (w ++ '#' :: cs)) :
    ∃ c ∈ cs, ¬ isWordChar c := by
  rcases eq_or_ne cs [] with rfl | hne
  · obtain ⟨b, c, rfl⟩ := List.eq_nil_or_concat' w |>.resolve_left hw.ne_nil
    exact absurd (by simp) (h b c (hw.word c (by simp))).2
  · exact Apart.exists_not_word cs (Apart.of_append (w ++ ['#']) cs (by simpa using h)) hne

theorem dropWhile_append_of_exists (p : Char → Bool) (xs ys : List Char) (h : ∃ c ∈ xs, ¬ p c) :
    xs.dropWhile p ≠ [] ∧ (xs ++ ys).dropWhile p = xs.dropWhile p ++ ys := by
  obtain ⟨c, hc, hp⟩ := h
  have hne : xs.dropWhile p ≠ [] := fun hnil => hp (List.dropWhile_eq_nil_iff.1 hnil c hc)
  exact ⟨hne, by rw [List.dropWhile_append, if_neg (by simpa using hne)]⟩

/-- Behind a word with a `#`, the scan goes on in the same text. -/
theorem lastWord?_before_sharp (w more cs : List Char) (hw : IsWord w)
    (ha : Apart (w ++ '#' :: more)) (hcs : lastWord? cs ≠ none)
    (ih : Apart (more.dropWhile isAsciiDigit) →
      lastWord? (more.dropWhile isAsciiDigit ++ cs) = lastWord? cs) :
    lastWord? (w ++ '#' :: more ++ cs) = lastWord? cs := by
  obtain ⟨d, hd, hdw⟩ := Apart.exists_after_sharp w more hw ha
  have hdrop := dropWhile_append_of_exists isAsciiDigit more cs
    ⟨d, hd, fun h => hdw (isWordChar_of_digit d h)⟩
  have hmore : Apart (more.dropWhile isAsciiDigit) := by
    refine Apart.of_append (w ++ '#' :: more.takeWhile isAsciiDigit) _ ?_
    simpa using ha
  obtain ⟨word, hsome⟩ := Option.ne_none_iff_exists'.1 hcs
  rw [List.append_assoc, List.cons_append, lastWord?_word_sharp w _ hw, hdrop.2, ih hmore, hsome]
  rfl

theorem lastWord?_before_word (w more cs : List Char) (hw : IsWord w) (ha : Apart (w ++ more))
    (hends : WordEnds more) (hs : more.head? ≠ some '#') (hcs : lastWord? cs ≠ none)
    (ih : Apart more → lastWord? (more ++ cs) = lastWord? cs) :
    lastWord? (w ++ more ++ cs) = lastWord? cs := by
  have hne : more ≠ [] := by
    rintro rfl
    obtain ⟨c, hc, hno⟩ := Apart.exists_not_word _ ha (by simpa using hw.ne_nil)
    exact hno (hw.word c (by simpa using hc))
  obtain ⟨e, es, rfl⟩ := List.exists_cons_of_ne_nil hne
  obtain ⟨word, hsome⟩ := Option.ne_none_iff_exists'.1 hcs
  rw [List.append_assoc, lastWord?_word w (e :: es ++ cs) hw hends hs,
    ih (Apart.of_append w _ ha), hsome]
  rfl

/-- Nothing before a chain counts: the scan comes to its first run afresh. -/
theorem lastWord?_before (before cs : List Char) (ha : Apart before) (hcs : lastWord? cs ≠ none) :
    lastWord? (before ++ cs) = lastWord? cs := by
  fun_induction scan before with
  | case1 => rfl
  | case2 c bs hc _ rest h ih =>
    have hb : c :: bs = (c :: bs.takeWhile isWordChar) ++ '#' :: rest := by
      rw [← h, List.cons_append, List.takeWhile_append_dropWhile]
    rw [hb] at ha ⊢
    exact lastWord?_before_sharp _ rest cs (isWord_takeWhile c bs hc) ha hcs ih
  | case3 c bs hc _ h ih =>
    have hb : c :: bs = (c :: bs.takeWhile isWordChar) ++ bs.dropWhile isWordChar := by
      rw [List.cons_append, List.takeWhile_append_dropWhile]
    have hs : (bs.dropWhile isWordChar).head? ≠ some '#' := fun hs => by
      obtain ⟨rest, hrest⟩ := List.head?_eq_some_iff.1 hs
      exact h rest hrest
    rw [hb] at ha ⊢
    exact lastWord?_before_word _ _ cs (isWord_takeWhile c bs hc) ha (wordEnds_dropWhile bs) hs
      hcs ih
  | case4 c bs hc ih =>
    rw [List.cons_append, lastWord?_noise _ _ hc]
    exact ih (Apart.of_append [c] bs ha)

theorem Apart.nil : Apart [] := fun b c _ => ⟨by simp, by simp⟩

theorem Apart.cons (c : Char) (before : List Char) (hne : before ≠ []) (h : Apart before)
    (hs : before = ['#'] → ¬ isWordChar c) : Apart (c :: before) := by
  intro b d hd
  refine ⟨fun he => ?_, fun he => ?_⟩
  · rcases List.cons_eq_append_iff.1 he with ⟨-, hb⟩ | ⟨b', -, hb⟩
    · exact hne (List.cons.inj hb).2.symm
    · exact (h b' d hd).1 hb
  · rcases List.cons_eq_append_iff.1 he with ⟨-, hb⟩ | ⟨b', -, hb⟩
    · obtain ⟨rfl, rfl⟩ := List.cons.inj hb
      exact hs rfl hd
    · exact (h b' d hd).2 hb

theorem Apart.singleton (c : Char) (hc : ¬ isWordChar c) : Apart [c] := by
  intro b d hd
  refine ⟨fun he => ?_, fun he => ?_⟩
  · have hcd : [] ++ [c] = b ++ [d] := he
    obtain ⟨-, hcd⟩ := List.append_inj' hcd rfl
    exact hc ((List.cons.inj hcd).1 ▸ hd)
  · have hl := congrArg List.length he
    simp at hl

theorem isWord_singleton (c : Char) (hc : isWordChar c) : IsWord [c] := ⟨by simp, by simpa using hc⟩

theorem IsWord.cons (c : Char) (w : List Char) (hc : isWordChar c) (h : IsWord w) :
    IsWord (c :: w) := ⟨by simp, by simpa using ⟨hc, h.word⟩⟩

/-- A character before a text lengthens the first run of its last chain, begins a run of its own,
or stands before the chain. -/
theorem exists_chain_cons (c : Char) (text : List Char) (chain : Chain text) :
    Nonempty (Chain (c :: text)) := by
  obtain ⟨before, runs, after, rfl, apart, hne, word, blank⟩ := chain
  obtain ⟨r, rs, rfl⟩ := List.exists_cons_of_ne_nil hne
  by_cases hc : isWordChar c
  · rcases eq_or_ne before [] with rfl | hb
    · refine ⟨⟨[], (c :: r) :: rs, after, ?_, Apart.nil, by simp, ?_, blank⟩⟩
      · cases rs <;> simp
      · rintro w (_ | ⟨_, hw⟩)
        · exact IsWord.cons c r hc (word r (by simp))
        · exact word w (List.mem_cons_of_mem r hw)
    · by_cases hs : before = ['#']
      · subst hs
        refine ⟨⟨[], [c] :: r :: rs, after, by simp, Apart.nil, by simp, ?_, blank⟩⟩
        rintro w (_ | ⟨_, hw⟩)
        · exact isWord_singleton c hc
        · exact word w hw
      · exact ⟨⟨c :: before, r :: rs, after, rfl, Apart.cons c before hb apart (absurd · hs), hne,
          word, blank⟩⟩
  · refine ⟨⟨c :: before, r :: rs, after, rfl, ?_, hne, word, blank⟩⟩
    rcases eq_or_ne before [] with rfl | hb
    · exact Apart.singleton c hc
    · exact Apart.cons c before hb apart fun _ => hc

/-- A text with a word character has a last chain. -/
theorem exists_chain (text : List Char) (h : ∃ c ∈ text, isWordChar c) : Nonempty (Chain text) := by
  induction text with
  | nil => simp at h
  | cons c text ih =>
    by_cases ht : ∃ d ∈ text, isWordChar d
    · obtain ⟨chain⟩ := ih ht
      exact exists_chain_cons c text chain
    · have hno : ∀ d ∈ text, ¬ isWordChar d := fun d hd hw => ht ⟨d, hd, hw⟩
      have hc : isWordChar c := by
        obtain ⟨d, hd, hw⟩ := h
        rcases List.mem_cons.1 hd with rfl | hd
        · exact hw
        · exact absurd hw (hno d hd)
      exact ⟨⟨[], [[c]], text, rfl, Apart.nil, by simp, by simpa using isWord_singleton c hc, hno⟩⟩

theorem Chain.lastWord?_eq {text : List Char} (chain : Chain text) :
    lastWord? text = some (Chain.lastOf chain.runs) := by
  have hpos : 0 < chain.runs.length := List.length_pos_iff.2 chain.ne_nil
  have htail := Chain.tail_of_not_indexed 0 (not_indexed_zero chain.runs)
  have hrun := Chain.isWord_run chain.word 0 hpos
  have hscan := Chain.lastWord?_tail chain.word chain.blank 0 hpos (htail ▸ hrun.ne_nil)
  refine (congrArg lastWord? chain.text_eq).trans ?_
  rw [List.append_assoc, Chain.intercalate_runs chain.ne_nil, ← htail,
    lastWord?_before _ _ chain.apart (by simp [hscan])]
  exact hscan

theorem Chain.readChain_eq {runs : List (List Char)} (hne : runs ≠ []) (hw : ∀ r ∈ runs, IsWord r) :
    (fun index => ⟨String.ofList (Chain.lastOf runs).1, index⟩) <$>
      readIndex (Chain.lastOf runs).2 = Chain.readChain runs := by
  have hpos : 0 < runs.length := List.length_pos_iff.2 hne
  by_cases hend : Chain.EndsInIndex runs
  · have hdigits : ∀ c ∈ Chain.run runs (runs.length - 1), isAsciiDigit c := by
      have ht := hend.2.2
      rw [Chain.tail_of_indexed _ hend.2.1] at ht
      exact List.dropWhile_eq_nil_iff.1 ht
    have hrun := Chain.isWord_run hw (runs.length - 1) (by omega)
    rw [Chain.lastOf, Chain.readChain, if_pos hend, if_pos hend,
      readIndex_digits _ hrun.ne_nil hdigits, ofDigits_eq_ofDigitChars _ hdigits]
    split <;> rfl
  · rw [Chain.lastOf, Chain.readChain, if_neg hend, if_neg hend]
    rfl

/-- The segment of a raw text is what its last chain is read as; a text without word characters
has none. -/
theorem parse_eq_readChain (raw : String) :
    ((∀ c ∈ raw.toList, ¬ isWordChar c) →
      parse raw = .error (Problem.invalidSegment raw).failure) ∧
    ((∃ c ∈ raw.toList, isWordChar c) → Nonempty (Chain raw.toList)) ∧
    ∀ chain : Chain raw.toList,
      parse raw = Chain.readChain chain.runs ∧
      (Chain.EndsInIndex chain.runs → Chain.tail chain.runs (chain.runs.length - 2) ≠ []) := by
  refine ⟨fun h => parse_of_none raw (lastWord?_of_forall_not _ h), exists_chain _,
    fun chain => ⟨?_, fun hend => ?_⟩⟩
  · rw [parse_of_lastWord? raw _ _ chain.lastWord?_eq]
    exact Chain.readChain_eq chain.ne_nil chain.word
  · have hlen := hend.1
    refine Chain.tail_ne_nil_of_indexed_succ chain.word _ (by omega) ?_
    rw [show chain.runs.length - 2 + 1 = chain.runs.length - 1 by omega]
    exact hend.2.1

example : parse "a#1#2#3" = .ok ⟨"2", some 3⟩ := by cbv

end DotPath.Segment

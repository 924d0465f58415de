import DotPath.Proofs.Segment.Scan

set_option autoImplicit false

/-!
Where the words of a raw segment stand. The scan walks over a text and at each word takes its key,
its `#` and its index; `CutFrom` is the invariant of that walk, which says of what is left from a
place on where the words in it are. `cutFrom_iff`: a text can be cut in one way only, and the scan
finds it.
-/

namespace DotPath.Segment

open Text

theorem takeWhile_ne_nil_iff (p : Char → Bool) (cs : List Char) :
    cs.takeWhile p ≠ [] ↔ ∃ c, cs.head? = some c ∧ p c := by
  cases cs with
  | nil => simp
  | cons c cs => by_cases hc : p c <;> simp [hc]

theorem filter_eq_takeWhile_append (p q : Char → Bool) (h : ∀ c, q c → p c) (cs : List Char) :
    cs.filter p = cs.takeWhile q ++ (cs.dropWhile q).filter p := by
  have hall : ∀ c ∈ cs.takeWhile q, p c := fun c hc => h c (List.mem_takeWhile_imp hc)
  rw [← List.filter_eq_self.2 hall, ← List.filter_append, List.takeWhile_append_dropWhile]

/-- A word of a raw segment where it stands, with its `#` and the digits of its index. -/
structure Occurrence where
  start : Nat
  key : List Char
  sharp : Bool
  index : List Char
  deriving DecidableEq, Repr

namespace Occurrence

section Places

variable (o : Occurrence)

/-- The place behind the key. -/
def keyStop : Nat := o.start + o.key.length

/-- The place behind all that the match takes. -/
def stop : Nat := o.start + (Piece.word o.key o.sharp o.index).text.length

def span : Nat × Nat := (o.start, o.stop)

def Spans (i : Nat) : Prop := o.start ≤ i ∧ i < o.stop

def InKey (i : Nat) : Prop := o.start ≤ i ∧ i < o.keyStop

/-- The place is one of as many behind the `#` as the index has digits. -/
def InIndex (i : Nat) : Prop := o.keyStop < i ∧ i ≤ o.keyStop + o.index.length

/-- The key stands in the text up to the end of a run of word characters; a `#` belongs to it just
if one follows, and an index just if a digit follows that, and then all the digits there. -/
structure Stands (text : List Char) : Prop where
  key : IsWord o.key
  key_text : o.key <+: text.drop o.start
  key_ends : ∀ c, text[o.keyStop]? = some c → ¬ isWordChar c
  sharp_iff : o.sharp ↔ text[o.keyStop]? = some '#'
  index_iff : o.index ≠ [] ↔
    text[o.keyStop]? = some '#' ∧ ∃ d, text[o.keyStop + 1]? = some d ∧ isAsciiDigit d
  index_text : o.index ≠ [] → o.index = (text.drop (o.keyStop + 1)).takeWhile isAsciiDigit

theorem stop_eq : o.stop = o.keyStop + (if o.sharp then 1 else 0) + o.index.length := by
  cases hs : o.sharp <;> simp [stop, keyStop, Piece.text, hs] <;> omega

theorem start_le_stop : o.start ≤ o.stop := by
  rw [stop]
  omega

theorem xor_of_taken (i : Nat) (hi : o.InKey i ∨ o.InIndex i) : Xor (o.InKey i) (o.InIndex i) := by
  rcases hi with hi | hi
  · exact .inl ⟨hi, fun hi' => absurd hi.2 (Nat.lt_asymm hi'.1)⟩
  · exact .inr ⟨hi, fun hi' => absurd hi'.2 (Nat.lt_asymm hi.1)⟩

end Places

namespace Stands

variable {o p : Occurrence} {text : List Char}

/-- What follows the key decides whether a match stands in a text. -/
theorem of_rest (rest : List Char) (hkey : IsWord o.key)
    (htext : text.drop o.start = o.key ++ rest) (hends : WordEnds rest)
    (hsharp : o.sharp ↔ rest.head? = some '#')
    (hindex : o.index = if o.sharp then rest.tail.takeWhile isAsciiDigit else []) :
    o.Stands text := by
  have hdrop : text.drop o.keyStop = rest := by
    rw [keyStop, ← List.drop_drop, htext, List.drop_left]
  have hdropNext : text.drop (o.keyStop + 1) = rest.tail := by
    rw [← List.drop_drop, hdrop, List.drop_one]
  have hhead : text[o.keyStop]? = rest.head? := by rw [← List.head?_drop, hdrop]
  have hnext : text[o.keyStop + 1]? = rest.tail.head? := by rw [← List.head?_drop, hdropNext]
  refine ⟨hkey, ⟨rest, htext.symm⟩, fun c hc => hends c (hhead ▸ hc), hhead ▸ hsharp, ?_, ?_⟩
  · rw [hhead, hnext, ← hsharp, ← takeWhile_ne_nil_iff, hindex]
    split
    next hs => simp [hs]
    next hs => simp [hs]
  · intro hi
    rw [hindex] at hi ⊢
    split
    next => rw [hdropNext]
    next hs => exact absurd (if_neg hs) hi

theorem start_lt_keyStop (h : o.Stands text) : o.start < o.keyStop := by
  have hpos := List.length_pos_iff.2 h.key.ne_nil
  rw [keyStop]
  omega

theorem drop_start (h : o.Stands text) : text.drop o.start = o.key ++ text.drop o.keyStop := by
  obtain ⟨rest, hrest⟩ := h.key_text
  rw [keyStop, ← List.drop_drop, ← hrest, List.drop_left]

theorem wordEnds (h : o.Stands text) : WordEnds (text.drop o.keyStop) := by
  intro c hc
  rw [List.head?_drop] at hc
  exact h.key_ends c hc

theorem takeWhile_start (h : o.Stands text) : (text.drop o.start).takeWhile isWordChar = o.key := by
  rw [h.drop_start]
  exact takeWhile_word _ _ h.key.word h.wordEnds

theorem exists_start (h : o.Stands text) : ∃ c, text[o.start]? = some c ∧ isWordChar c := by
  obtain ⟨c, key, hkey⟩ := List.exists_cons_of_ne_nil h.key.ne_nil
  refine ⟨c, ?_, h.key.word c (by simp [hkey])⟩
  rw [← List.head?_drop, h.drop_start, hkey]
  rfl

theorem sharp_of_index (h : o.Stands text) (hi : o.index ≠ []) : o.sharp :=
  h.sharp_iff.2 (h.index_iff.1 hi).1

theorem index_of_not_sharp (h : o.Stands text) (hs : ¬ o.sharp) : o.index = [] := by
  by_contra hi
  exact hs (h.sharp_of_index hi)

/-- With a `#` come all the digits behind it, even if there are none. -/
theorem index_eq (h : o.Stands text) (hs : o.sharp) :
    o.index = (text.drop (o.keyStop + 1)).takeWhile isAsciiDigit := by
  by_cases hi : o.index = []
  · have hnone : ¬ (text.drop (o.keyStop + 1)).takeWhile isAsciiDigit ≠ [] := fun hne => by
      rw [takeWhile_ne_nil_iff, List.head?_drop] at hne
      exact h.index_iff.2 ⟨h.sharp_iff.1 hs, hne⟩ hi
    rw [hi, not_not.1 hnone]
  · exact h.index_text hi

theorem isAsciiDigit_of_mem_index (h : o.Stands text) (d : Char) (hd : d ∈ o.index) :
    isAsciiDigit d := by
  rw [h.index_text (List.ne_nil_of_mem hd)] at hd
  exact List.mem_takeWhile_imp hd

/-- What a match takes for its key or its index is a word character. -/
theorem isWordChar_of_taken (h : o.Stands text) (i : Nat) (c : Char) (hc : text[i]? = some c)
    (hi : o.InKey i ∨ o.InIndex i) : isWordChar c := by
  rcases hi with hi | hi
  · obtain ⟨n, rfl⟩ := Nat.exists_eq_add_of_le hi.1
    have hn : n < o.key.length := by
      have hlt := hi.2
      rw [keyStop] at hlt
      omega
    rw [← List.getElem?_drop, h.drop_start, List.getElem?_append_left hn] at hc
    exact h.key.word c (List.mem_of_getElem? hc)
  · obtain ⟨n, rfl⟩ := Nat.exists_eq_add_of_lt hi.1
    have hn : n < o.index.length := by
      have hle := hi.2
      omega
    have hne := List.ne_nil_of_length_pos (Nat.zero_lt_of_lt hn)
    obtain ⟨rest, hrest⟩ : o.index <+: text.drop (o.keyStop + 1) := by
      rw [h.index_text hne]
      exact List.takeWhile_prefix isAsciiDigit
    rw [show o.keyStop + n + 1 = o.keyStop + 1 + n by omega, ← List.getElem?_drop, ← hrest,
      List.getElem?_append_left hn] at hc
    exact isWordChar_of_digit c (h.isAsciiDigit_of_mem_index c (List.mem_of_getElem? hc))

theorem spans_of_taken (h : o.Stands text) (i : Nat) (hi : o.InKey i ∨ o.InIndex i) :
    o.Spans i := by
  have hlt := h.start_lt_keyStop
  have hstop := o.stop_eq
  rcases hi with ⟨hle, hi⟩ | ⟨hlt, hi⟩
  · exact ⟨hle, by omega⟩
  · have hne : o.index ≠ [] := List.ne_nil_of_length_pos (by omega)
    rw [if_pos (h.sharp_of_index hne)] at hstop
    exact ⟨by omega, by omega⟩

theorem eq_of_start (ho : o.Stands text) (hp : p.Stands text) (h : o.start = p.start) : o = p := by
  have hkey : o.key = p.key := by rw [← ho.takeWhile_start, ← hp.takeWhile_start, h]
  have hstop : o.keyStop = p.keyStop := by rw [keyStop, keyStop, h, hkey]
  have hsharp : o.sharp = p.sharp := by
    rw [Bool.eq_iff_iff, ho.sharp_iff, hp.sharp_iff, hstop]
  have hindex : o.index = p.index := by
    by_cases hs : o.sharp
    · rw [ho.index_eq hs, hp.index_eq (hsharp ▸ hs), hstop]
    · rw [ho.index_of_not_sharp hs, hp.index_of_not_sharp (hsharp ▸ hs)]
  cases o
  cases p
  simp_all

end Stands

end Occurrence

/-- The words in a text from place `i` on: they stand in it one after the other, and no word
character is left between them. -/
structure CutFrom (text : List Char) (i : Nat) (words : List Occurrence) : Prop where
  stands : ∀ o ∈ words, o.Stands text
  le_start : ∀ o ∈ words, i ≤ o.start
  ordered : words.Pairwise fun o p => o.stop ≤ p.start
  covered : ∀ k c, i ≤ k → text[k]? = some c → isWordChar c →
    ∃ o ∈ words, o.InKey k ∨ o.InIndex k

namespace CutFrom

variable {text : List Char} {i : Nat} {o : Occurrence} {words : List Occurrence}

theorem nil (h : text.length ≤ i) : CutFrom text i [] := by
  refine ⟨by simp, by simp, .nil, fun k c hk hc _ => ?_⟩
  rw [List.getElem?_eq_none (by omega)] at hc
  cases hc

theorem noise (c : Char) (hc : text[i]? = some c) (hnoise : ¬ isWordChar c)
    (h : CutFrom text (i + 1) words) : CutFrom text i words := by
  have hle : ∀ o ∈ words, i ≤ o.start := fun o ho => Nat.le_of_succ_le (h.le_start o ho)
  refine ⟨h.stands, hle, h.ordered, fun k d hk hd hword => ?_⟩
  rcases Nat.eq_or_lt_of_le hk with rfl | hlt
  · obtain rfl : c = d := Option.some.inj (hc.symm.trans hd)
    exact absurd hword hnoise
  · exact h.covered k d hlt hd hword

theorem cons (ho : o.Stands text) (h : CutFrom text o.stop words) :
    CutFrom text o.start (o :: words) := by
  have hkey := ho.start_lt_keyStop
  have hstop := o.stop_eq
  have hle : ∀ p ∈ words, o.start ≤ p.start := fun p hp =>
    Nat.le_trans o.start_le_stop (h.le_start p hp)
  refine ⟨List.forall_mem_cons.2 ⟨ho, h.stands⟩, List.forall_mem_cons.2 ⟨le_rfl, hle⟩,
    List.pairwise_cons.2 ⟨h.le_start, h.ordered⟩, fun k c hk hc hword => ?_⟩
  -- Only the `#` stands between key and index, and it is no word character.
  by_cases hinKey : k < o.keyStop
  · exact ⟨o, by simp, .inl ⟨hk, hinKey⟩⟩
  · have hne : k ≠ o.keyStop := by
      rintro rfl
      exact ho.key_ends c hc hword
    by_cases hinIndex : k ≤ o.keyStop + o.index.length
    · exact ⟨o, by simp, .inr ⟨by omega, hinIndex⟩⟩
    · have hbehind : o.stop ≤ k := by
        split at hstop <;> omega
      obtain ⟨p, hp, htaken⟩ := h.covered k c hbehind hc hword
      exact ⟨p, by simp [hp], htaken⟩

/-- What is left behind the first word is cut by the others. -/
theorem tail (h : CutFrom text i (o :: words)) : CutFrom text o.stop words := by
  obtain ⟨hafter, hordered⟩ := List.pairwise_cons.1 h.ordered
  have ho := h.stands o (by simp)
  have hle := h.le_start o (by simp)
  have hlt := o.start_le_stop
  refine ⟨fun p hp => h.stands p (by simp [hp]), hafter, hordered, fun k c hk hc hword => ?_⟩
  obtain ⟨p, hp, htaken⟩ := h.covered k c (by omega) hc hword
  rcases List.mem_cons.1 hp with rfl | hp
  · exact absurd (ho.spans_of_taken k htaken).2 (by omega)
  · exact ⟨p, hp, htaken⟩

theorem not_isWordChar_before (h : CutFrom text i (o :: words)) (k : Nat) (c : Char) (hk : i ≤ k)
    (hlt : k < o.start) (hc : text[k]? = some c) : ¬ isWordChar c := by
  intro hword
  obtain ⟨p, hp, htaken⟩ := h.covered k c hk hc hword
  have hspans := (h.stands p hp).spans_of_taken k htaken
  have hle : o.start ≤ p.start := by
    rcases List.mem_cons.1 hp with rfl | hp
    · exact le_rfl
    · exact Nat.le_trans o.start_le_stop ((List.pairwise_cons.1 h.ordered).1 p hp)
  exact absurd hspans.1 (by omega)

theorem eq_of_spans {p : Occurrence} (h : CutFrom text i words) (ho : o ∈ words) (hp : p ∈ words)
    (k : Nat) (hok : o.Spans k) (hpk : p.Spans k) : o = p := by
  by_contra hne
  have hpairs : words.Pairwise fun o p => o.stop ≤ p.start ∨ p.stop ≤ o.start :=
    h.ordered.imp fun hle => .inl hle
  have hsymm : Std.Symm fun o p : Occurrence => o.stop ≤ p.start ∨ p.stop ≤ o.start :=
    ⟨fun _ _ => Or.symm⟩
  have hapart := hpairs.forall ho hp hne
  obtain ⟨hos, hoe⟩ := hok
  obtain ⟨hps, hpe⟩ := hpk
  omega

/-- A text can be cut in one way only. -/
theorem unique (others : List Occurrence) (h : CutFrom text i words)
    (h' : CutFrom text i others) : words = others := by
  induction words generalizing i others with
  | nil =>
    cases others with
    | nil => rfl
    | cons p others =>
      obtain ⟨c, hc, hword⟩ := (h'.stands p (by simp)).exists_start
      obtain ⟨o, ho, -⟩ := h.covered p.start c (h'.le_start p (by simp)) hc hword
      cases ho
  | cons o words ih =>
    obtain ⟨c, hc, hword⟩ := (h.stands o (by simp)).exists_start
    have hle := h.le_start o (by simp)
    cases others with
    | nil =>
      obtain ⟨p, hp, -⟩ := h'.covered o.start c hle hc hword
      cases hp
    | cons p others =>
      obtain ⟨d, hd, hword'⟩ := (h'.stands p (by simp)).exists_start
      have hle' := h'.le_start p (by simp)
      -- Both begin at the first word character there is, and where they begin tells all of them.
      have hstart : o.start = p.start := by
        by_contra hne
        rcases Nat.lt_or_gt_of_ne hne with hlt | hlt
        · exact h'.not_isWordChar_before o.start c hle hlt hc hword
        · exact h.not_isWordChar_before p.start d hle' hlt hd hword'
      obtain rfl := (h.stands o (by simp)).eq_of_start (h'.stands p (by simp)) hstart
      rw [ih others h.tail h'.tail]

end CutFrom

/-- The words among the pieces of a text, with the places where they stand. -/
def located : Nat → List Piece → List Occurrence
  | _, [] => []
  | i, .word key sharp index :: pieces =>
    ⟨i, key, sharp, index⟩ :: located (i + (Piece.word key sharp index).text.length) pieces
  | i, .noise _ :: pieces => located (i + 1) pieces

/-- The matches that the scan of a text comes to. -/
def occurrences (text : List Char) : List Occurrence := located 0 (scan text)

/-- The scan of what is left of a text cuts all of that. -/
theorem cutFrom_located (front cs : List Char) :
    CutFrom (front ++ cs) front.length (located front.length (scan cs)) := by
  -- At each restart of the scan, `front` is what it has passed, and the invariant is of the rest.
  fun_induction scan cs generalizing front with
  | case1 => exact .nil (by simp)
  | case2 c cs hc key rest h ih =>
    have hcs : c :: cs = key ++ '#' :: rest := by
      rw [← h, List.cons_append, List.takeWhile_append_dropWhile]
    have hstands : Occurrence.Stands ⟨front.length, key, true, rest.takeWhile isAsciiDigit⟩
        (front ++ (key ++ '#' :: rest)) :=
      .of_rest ('#' :: rest) (isWord_takeWhile c cs hc) (by simp) (wordEnds_sharp rest) (by simp)
        (by simp)
    have hmore := ih (front ++ (Piece.word key true (rest.takeWhile isAsciiDigit)).text)
    rw [hcs]
    refine .cons hstands ?_
    simpa [Piece.text, Occurrence.stop] using hmore
  | case3 c cs hc key h ih =>
    have hcs : c :: cs = key ++ cs.dropWhile isWordChar := by
      rw [List.cons_append, List.takeWhile_append_dropWhile]
    have hsharp : (cs.dropWhile isWordChar).head? ≠ some '#' := fun hs => by
      obtain ⟨rest, hrest⟩ := List.head?_eq_some_iff.1 hs
      exact h rest hrest
    have hstands : Occurrence.Stands ⟨front.length, key, false, []⟩
        (front ++ (key ++ cs.dropWhile isWordChar)) :=
      .of_rest _ (isWord_takeWhile c cs hc) (by simp) (wordEnds_dropWhile cs)
        (by simpa using hsharp) (by simp)
    have hmore := ih (front ++ (Piece.word key false []).text)
    rw [hcs]
    refine .cons hstands ?_
    simpa [Piece.text, Occurrence.stop] using hmore
  | case4 c cs hc ih =>
    refine .noise c (by simp) hc ?_
    simpa [located] using ih (front ++ [c])

theorem cutFrom_occurrences (text : List Char) : CutFrom text 0 (occurrences text) :=
  cutFrom_located [] text

theorem cutFrom_iff (text : List Char) (words : List Occurrence) :
    CutFrom text 0 words ↔ words = occurrences text := by
  constructor
  · exact fun h => h.unique _ (cutFrom_occurrences text)
  · rintro rfl
    exact cutFrom_occurrences text

/-- The keys and indices of a scan are the word characters of the text, in their order. -/
theorem flatMap_located (i : Nat) (cs : List Char) :
    (located i (scan cs)).flatMap (fun o => o.key ++ o.index) = cs.filter isWordChar := by
  have hwords := filter_eq_takeWhile_append isWordChar isWordChar fun _ hc => hc
  have hdigits := filter_eq_takeWhile_append isWordChar isAsciiDigit isWordChar_of_digit
  fun_induction scan cs generalizing i with
  | case1 => rfl
  | case2 c cs hc key rest h ih =>
    rw [List.filter_cons_of_pos hc, hwords cs, h, List.filter_cons_of_neg not_isWordChar_sharp,
      hdigits rest]
    simp [located, key, ih]
  | case3 c cs hc key h ih =>
    rw [List.filter_cons_of_pos hc, hwords cs]
    simp [located, key, ih]
  | case4 c cs hc ih =>
    rw [List.filter_cons_of_neg hc]
    exact ih (i + 1)

theorem filterMap_word? (i : Nat) (pieces : List Piece) :
    pieces.filterMap Piece.word? = (located i pieces).map fun o => (o.key, o.index) := by
  induction pieces generalizing i with
  | nil => rfl
  | cons piece pieces ih =>
    cases piece with
    | word key sharp index => simp [Piece.word?, located, ← ih]
    | noise c =>
      rw [List.filterMap_cons_none (by rfl)]
      exact ih (i + 1)

theorem lastWord?_eq_getLast? (cs : List Char) :
    lastWord? cs = (occurrences cs).getLast?.map fun o => (o.key, o.index) := by
  rw [lastWord?, filterMap_word? 0, List.getLast?_map]
  rfl

/-- Each piece takes one character at least. -/
theorem length_scan_le (cs : List Char) : (scan cs).length ≤ cs.length := by
  fun_induction scan cs with
  | case1 => exact le_rfl
  | case2 c cs hc key rest h ih =>
    have h₁ := length_dropWhile_le isWordChar cs
    have h₂ := length_dropWhile_le isAsciiDigit rest
    rw [h] at h₁
    simp only [List.length_cons] at *
    omega
  | case3 c cs hc key h ih =>
    have h₁ := length_dropWhile_le isWordChar cs
    simp only [List.length_cons] at *
    omega
  | case4 c cs hc ih => simpa using ih

end DotPath.Segment

import DotPath.Proofs.Json.RoundTrip

set_option autoImplicit false

/-!
Values that are written are written on one line. A plain value is never refused, its line holds no
break, and the line with the break after it is a text of JSON that is read as the value.
-/

namespace DotPath.Json

open Number Text

/-! ### Nothing is refused -/

theorem exceedsLimit_eq_false (n : Int) (h : (digits n.natAbs).length ≤ digitLimit) :
    exceedsLimit n = false := by
  have hpos : 0 < digitLimit := by decide
  unfold exceedsLimit
  -- The power is too large to be computed.
  generalize digitLimit = limit at *
  rw [decide_eq_false_iff_not, Nat.not_le]
  exact (Nat.length_toDigits_le_iff (by decide) hpos).1 h

section Refusal

variable (knots : List Nat) (depth : Nat)

theorem itemsRefusal?_eq_none (vs : List Value)
    (h : ∀ v ∈ vs, refusalIn? knots depth v = none) : itemsRefusal? knots depth vs = none := by
  induction vs with
  | nil => rfl
  | cons v vs ih =>
    obtain ⟨hv, hvs⟩ := List.forall_mem_cons.1 h
    rw [itemsRefusal?, hv, ih hvs]
    rfl

theorem entriesRefusal?_eq_none (es : Value.Entries)
    (h : ∀ e ∈ es, keyRefusal? e.1 = none ∧ refusalIn? knots depth e.2 = none) :
    entriesRefusal? knots depth es = none := by
  induction es with
  | nil => rfl
  | cons e es ih =>
    obtain ⟨⟨hkey, hvalue⟩, hes⟩ := List.forall_mem_cons.1 h
    rw [entriesRefusal?, hkey, hvalue, ih hes]
    rfl

theorem refusalIn?_of_plain (v : Value) (h : Plain depth v) : refusalIn? knots depth v = none := by
  induction h with
  | null => rfl
  | bool => rfl
  | text => rfl
  | int depth n hn => simp [refusalIn?, Value.int, Scalar.isTooLong, exceedsLimit_eq_false n hn]
  | list depth items _ ih => exact itemsRefusal?_eq_none knots depth items ih
  | mapping depth entries hkeys _ _ ih =>
    refine entriesRefusal?_eq_none knots depth entries fun e he => ⟨?_, ih e he⟩
    obtain ⟨k, hk⟩ := hkeys e he
    rw [hk]
    rfl

end Refusal

/-! ### Characters on one line -/

/-- Characters alone, and no break among them. -/
def OnLine (ps : List CodePoint) : Prop := ∃ cs, ps = codePoints cs ∧ '\n' ∉ cs

theorem OnLine.append (ps qs : List CodePoint) (hps : OnLine ps) (hqs : OnLine qs) :
    OnLine (ps ++ qs) := by
  obtain ⟨cs, rfl, hcs⟩ := hps
  obtain ⟨ds, rfl, hds⟩ := hqs
  exact ⟨cs ++ ds, List.map_append.symm, by simp [hcs, hds]⟩

theorem OnLine.cons (c : Char) (ps : List CodePoint) (hc : c ≠ '\n') (hps : OnLine ps) :
    OnLine (.char c :: ps) := by
  obtain ⟨cs, rfl, hcs⟩ := hps
  exact ⟨c :: cs, rfl, by simp [hc.symm, hcs]⟩

theorem newline_notMem_digits (n : Nat) : '\n' ∉ digits n := fun h =>
  absurd (isAsciiDigit_of_mem_digits n '\n' h) (by decide)

theorem newline_notMem_escapeChar (c : Char) : '\n' ∉ escapeChar c := by
  have hhex : ∀ n < 0x20, '\n' ∉ '\\' :: 'u' :: hex 4 n := by decide
  obtain ⟨e, -, he, hesc⟩ | ⟨hc, hesc⟩ | ⟨-, -, hc, hesc⟩ := escapeChar_cases c <;> rw [hesc]
  · rintro hmem
    obtain rfl : e = '\n' := by simpa [eq_comm] using hmem
    simp [unescape?] at he
  · exact hhex _ hc
  · rintro hmem
    obtain rfl : c = '\n' := by simpa [eq_comm] using hmem
    exact absurd hc (by decide)

theorem onLine_writeString (cs : List Char) : OnLine (writeString (codePoints cs)) := by
  have hbody : OnLine ((codePoints cs).flatMap escapePoint ++ [.char '"']) := by
    induction cs with
    | nil => exact ⟨['"'], rfl, by decide⟩
    | cons c cs ih =>
      rw [codePoints_cons, List.flatMap_cons, List.append_assoc]
      exact .append _ _ ⟨escapeChar c, rfl, newline_notMem_escapeChar c⟩ ih
  exact .cons '"' _ (by decide) hbody

theorem onLine_writeParts (ps : List (List CodePoint)) (h : ∀ p ∈ ps, OnLine p) :
    OnLine (writeParts ps) := by
  induction ps with
  | nil => exact ⟨[], rfl, by simp⟩
  | cons p ps ih =>
    obtain ⟨hp, hps⟩ := List.forall_mem_cons.1 h
    cases ps with
    | nil => rwa [writeParts_singleton]
    | cons q ps =>
      rw [← List.append_nil (writeParts _), writeParts_cons_cons, List.append_nil]
      exact .append _ _ hp (.cons ',' _ (by decide) (.cons ' ' _ (by decide) (ih hps)))

variable [Host]

/-- A plain value is written in characters alone, on one line. -/
theorem onLine_write (depth : Nat) (v : Value) (h : Plain depth v) : OnLine (write v) := by
  induction h with
  | null => exact ⟨"null".toList, rfl, by decide⟩
  | bool depth b =>
    cases b with
    | true => exact ⟨"true".toList, rfl, by decide⟩
    | false => exact ⟨"false".toList, rfl, by decide⟩
  | int depth n _ =>
    refine ⟨decimal n, rfl, ?_⟩
    rw [decimal]
    split <;> simp [newline_notMem_digits]
  | text depth s => exact onLine_writeString s.toList
  | list depth items _ ih =>
    have hitems := onLine_writeParts (items.map write) (by simpa using ih)
    rw [write, writeItems_eq, List.cons_append]
    exact .cons '[' _ (by decide) (.append _ _ hitems ⟨[']'], rfl, by decide⟩)
  | mapping depth entries hkeys _ _ ih =>
    have hentries := onLine_writeParts (entries.map writeEntry) (by
      rw [List.forall_mem_map]
      intro e he
      obtain ⟨k, hk⟩ := hkeys e he
      rw [writeEntry, hk]
      exact .append _ _ (onLine_writeString k.toList)
        (.cons ':' _ (by decide) (.cons ' ' _ (by decide) (ih e he))))
    rw [write, writeEntries_eq, List.cons_append]
    exact .cons '\x7b' _ (by decide) (.append _ _ hentries ⟨['\x7d'], rfl, by decide⟩)

/-! ### The line is written and read -/

theorem refusal?_of_plain (depth : Nat) (v : Value) (h : Plain depth v)
    (hdepth : depth ≤ Host.writingDepth) : refusal? v = none :=
  refusalIn?_of_plain [] Host.writingDepth v (h.mono v depth Host.writingDepth hdepth)

/-- A plain value is what its line, with the break after it, is read as. -/
theorem readText_line (v : Value) (h : Plain Host.readingDepth v) :
    readText (write v ++ [.char '\n']) = .ok v := by
  have hback := readBack_of_plain Host.readingDepth v h
  rw [readText_opened _ _ hback.opened, hback.read _ (ends_cons '\n' [] (by simp))]
  rfl

end DotPath.Json

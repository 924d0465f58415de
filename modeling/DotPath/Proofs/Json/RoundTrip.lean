import DotPath.Json.Writer
import DotPath.Proofs.Json.Members
import DotPath.Proofs.Json.Numbers
import DotPath.Proofs.Json.Strings

set_option autoImplicit false

/-!
Values as they are written. What is made of null, truth values, whole numbers, texts, lists and
mappings with texts for keys is written on one line and read back as it was, if it is not nested too
deep to be read.
-/

namespace DotPath.Json

open Number Text

/-- A value that JSON has, nested no deeper than the given number, without fractions. -/
inductive Plain : Nat → Value → Prop where
  | null (depth : Nat) : Plain depth .null
  | bool (depth : Nat) (b : Bool) : Plain depth (.bool b)
  | int (depth : Nat) (n : Int) (h : (digits n.natAbs).length ≤ digitLimit) : Plain depth (.int n)
  | text (depth : Nat) (s : String) : Plain depth (.text s)
  | list (depth : Nat) (items : List Value) (h : ∀ v ∈ items, Plain depth v) :
    Plain (depth + 1) (.list items)
  | mapping (depth : Nat) (entries : Value.Entries) (hkeys : ∀ e ∈ entries, ∃ k, e.1 = .text k)
    (hdistinct : Table.Distinct entries) (h : ∀ e ∈ entries, Plain depth e.2) :
    Plain (depth + 1) (.mapping entries)

theorem Plain.mono (v : Value) (m n : Nat) (h : Plain m v) (hle : m ≤ n) : Plain n v := by
  induction h generalizing n with
  | null => exact .null n
  | bool _ b => exact .bool n b
  | int _ i h => exact .int n i h
  | text _ s => exact .text n s
  | list depth items _ ih =>
    obtain ⟨k, rfl⟩ : ∃ k, n = k + 1 := ⟨n - 1, by omega⟩
    exact .list k items fun v hv => ih v hv k (by omega)
  | mapping depth entries hkeys hdistinct _ ih =>
    obtain ⟨k, rfl⟩ : ∃ k, n = k + 1 := ⟨n - 1, by omega⟩
    exact .mapping k entries hkeys hdistinct fun e he => ih e he k (by omega)

/-- The first characters of values. -/
def opens (c : Char) : Bool := ['"', '[', '\x7b', 'n', 't', 'f', '-'].contains c || isAsciiDigit c

/-- A text that begins as a value does. -/
def Opened (ps : List CodePoint) : Prop := ∃ c qs, ps = .char c :: qs ∧ opens c

theorem opened_numeral (ds : List Char) (h : Numeral ds) : Opened (codePoints ds) := by
  obtain ⟨d, ds, rfl⟩ := List.exists_cons_of_ne_nil h.ne_nil
  have hd : isAsciiDigit d := h.digits d (by simp)
  exact ⟨d, codePoints ds, rfl, by simp [opens, hd]⟩

theorem opened_decimal (n : Int) : Opened (codePoints (decimal n)) := by
  unfold decimal
  split
  · exact ⟨'-', _, rfl, rfl⟩
  · exact opened_numeral _ (numeral_digits n.natAbs)

@[simp] theorem writeParts_singleton (p : List CodePoint) : writeParts [p] = p :=
  List.intercalate_singleton

theorem writeParts_cons_cons (p q : List CodePoint) (ps : List (List CodePoint))
    (rest : List CodePoint) :
    writeParts (p :: q :: ps) ++ rest =
      p ++ .char ',' :: .char ' ' :: (writeParts (q :: ps) ++ rest) := by
  simp [writeParts, List.intercalate_cons_cons]

theorem opened_writeParts (p : List CodePoint) (ps : List (List CodePoint)) (h : Opened p) :
    Opened (writeParts (p :: ps)) := by
  obtain ⟨c, qs, rfl, hc⟩ := h
  cases ps with
  | nil => exact ⟨c, qs, writeParts_singleton _, hc⟩
  | cons q ps =>
    refine ⟨c, qs ++ .char ',' :: .char ' ' :: (writeParts (q :: ps) ++ []), ?_, hc⟩
    rw [← List.append_nil (writeParts _), writeParts_cons_cons]
    rfl

theorem length_le_writeParts (ps : List (List CodePoint)) (h : ∀ p ∈ ps, Opened p) :
    ps.length ≤ (writeParts ps).length := by
  induction ps with
  | nil => simp
  | cons p ps ih =>
    obtain ⟨⟨c, cs, rfl, -⟩, hps⟩ := List.forall_mem_cons.1 h
    cases ps with
    | nil => simp
    | cons q ps =>
      have hlen := ih hps
      rw [← List.append_nil (writeParts _), writeParts_cons_cons, List.append_nil]
      simp only [List.length_append, List.length_cons] at hlen ⊢
      omega

theorem skipBlank_opened (ps rest : List CodePoint) (h : Opened ps) :
    skipBlank (ps ++ rest) = ps ++ rest := by
  obtain ⟨c, qs, rfl, hc⟩ := h
  have hne (b : Char) (hb : opens b = false) : c ≠ b := by
    rintro rfl
    exact absurd hc (by simp [hb])
  have hblank : isJsonBlank c = false := by
    simp [isJsonBlank, hne ' ' rfl, hne '\t' rfl, hne '\n' rfl, hne '\r' rfl]
  simp [skipBlank, CodePoint.is, hblank]

theorem opened_ne_cons (ps rest after : List CodePoint) (b : Char) (h : Opened ps)
    (hb : opens b = false) : ps ++ rest ≠ .char b :: after := by
  obtain ⟨c, qs, rfl, hc⟩ := h
  intro hps
  obtain rfl : c = b := by simpa using (List.cons.inj hps).1
  simp [hb] at hc

/-- A text that begins as a value does is read from there on. -/
theorem readText_opened [Host] (ps rest : List CodePoint) (h : Opened ps) :
    readText (ps ++ rest) =
      readValue Host.readingDepth (ps ++ rest) >>= fun r =>
        match skipBlank r.2 with
        | [] => .ok r.1
        | after => .error (Stop.fault .extraData after) := by
  have hmark : (ps ++ rest).head? ≠ some (CodePoint.char Encoding.mark) := by
    obtain ⟨c, qs, rfl, hc⟩ := h
    rintro ⟨⟩
    simp [opens, Encoding.mark, isAsciiDigit] at hc
  rw [readText, if_neg hmark, read, readWithin, skipBlank_opened ps rest h]
  rfl

section Leaves

variable (depth : Nat) (c : Char) (ps : List CodePoint)

theorem readValue_quote :
    readValue depth (.char '"' :: ps) =
      (fun r => (.scalar r.1, r.2)) <$> readString (.char '"' :: ps) ps := by
  cases depth <;> cases h : readString (.char '"' :: ps) ps <;> simp [readValue, h]

/-- A value is a word or else a number if it does not begin with a quote or a bracket. -/
theorem readValue_leaf (h : c ∉ ['"', '[', '\x7b']) :
    readValue depth (.char c :: ps) =
      ((readWord? (.char c :: ps)).map .ok).getD
        ((readNumber? (.char c :: ps)).getD (.error (.fault .noValue (.char c :: ps)))) := by
  simp only [List.mem_cons, List.not_mem_nil, or_false, not_or] at h
  cases depth <;> cases hw : readWord? (.char c :: ps) <;> simp [readValue, h, hw]

theorem readValue_null : readValue depth (codePoints "null".toList ++ ps) = .ok (.null, ps) :=
  readValue_leaf depth 'n' _ (by decide)

theorem readValue_bool (b : Bool) :
    readValue depth (codePoints (if b then "true".toList else "false".toList) ++ ps) =
      .ok (.bool b, ps) := by
  cases b with
  | true => exact readValue_leaf depth 't' _ (by decide)
  | false => exact readValue_leaf depth 'f' _ (by decide)

theorem readWord?_numeral (negative : Bool) (ds : List Char) (hds : Numeral ds) :
    readWord? (codePoints ((if negative then ['-'] else []) ++ ds) ++ ps) = none := by
  obtain ⟨d, ds, rfl⟩ := List.exists_cons_of_ne_nil hds.ne_nil
  have hdigit : isAsciiDigit d := hds.digits d (by simp)
  have hd : d ≠ 'n' ∧ d ≠ 't' ∧ d ≠ 'f' ∧ d ≠ 'N' ∧ d ≠ 'I' ∧ d ≠ '-' := by
    refine ⟨?_, ?_, ?_, ?_, ?_, ?_⟩ <;> (rintro rfl; exact absurd hdigit (by decide))
  cases negative <;> simp [readWord?, words, hd, Ne.symm]

/-- A numeral is read as a whole number, or it is too long. -/
theorem readValue_numeral (negative : Bool) (ds : List Char) (hds : Numeral ds) (h : Ends ps) :
    readValue depth (codePoints ((if negative then ['-'] else []) ++ ds) ++ ps) =
      if digitLimit < ds.length then .error (.numeral (.tooLong ds.length))
      else .ok (.int (negateIf negative (ofDigits 10 ds)), ps) := by
  have hword := readWord?_numeral ps negative ds hds
  have hnumber := readNumber?_numeral ps h negative ds hds
  generalize hcs : (if negative then ['-'] else []) ++ ds = cs at hword hnumber
  obtain ⟨c, cs, rfl, hc⟩ : ∃ c cs', cs = c :: cs' ∧ c ∉ ['"', '[', '\x7b'] := by
    subst hcs
    obtain ⟨d, ds, rfl⟩ := List.exists_cons_of_ne_nil hds.ne_nil
    cases negative with
    | true => exact ⟨'-', _, rfl, by decide⟩
    | false =>
      refine ⟨d, ds, rfl, fun hd => ?_⟩
      have hdigit : isAsciiDigit d := hds.digits d (by simp)
      simp only [List.mem_cons, List.not_mem_nil, or_false] at hd
      rcases hd with rfl | rfl | rfl <;> exact absurd hdigit (by decide)
  rw [codePoints_cons, List.cons_append] at hword hnumber ⊢
  rw [readValue_leaf depth c _ hc, hword, hnumber]
  rfl

end Leaves

/-- A text that is one numeral of too many digits stops the reader. -/
theorem readText_tooLong [Host] (ds : List Char) (hds : Numeral ds) (h : digitLimit < ds.length) :
    readText (codePoints ds) = .error (.numeral (.tooLong ds.length)) := by
  have hread := readValue_numeral Host.readingDepth [] false ds hds ends_nil
  have htext := readText_opened (codePoints ds) [] (opened_numeral ds hds)
  rw [if_pos h] at hread
  simp only [List.append_nil] at htext
  rw [htext]
  simp only [Bool.false_eq_true, if_false, List.nil_append, List.append_nil] at hread
  rw [hread]
  rfl

theorem decimal_eq (n : Int) :
    decimal n = (if decide (n < 0) then ['-'] else []) ++ digits n.natAbs := by
  by_cases h : n < 0 <;> simp [decimal, h]

theorem negateIf_natAbs (n : Int) : negateIf (n < 0) n.natAbs = n := by
  by_cases h : n < 0
  · rw [negateIf, if_pos (by simpa using h)]
    omega
  · rw [negateIf, if_neg (by simpa using h)]
    omega

theorem readValue_decimal (depth : Nat) (n : Int) (rest : List CodePoint)
    (hn : (digits n.natAbs).length ≤ digitLimit) (hrest : Ends rest) :
    readValue depth (codePoints (decimal n) ++ rest) = .ok (.int n, rest) := by
  rw [decimal_eq, readValue_numeral depth rest _ _ (numeral_digits n.natAbs) hrest,
    if_neg (Nat.not_lt.2 hn), ofDigits_digits, negateIf_natAbs]

variable [Host]

/-- A value that a reader gets back from its written form. -/
structure ReadBack (element : Reader Value) (v : Value) : Prop where
  opened : Opened (write v)
  read : ∀ rest, Ends rest → element (write v ++ rest) = .ok (v, rest)

section Collections

variable (element : Reader Value)

theorem readElements_written (v : Value) (vs : List Value) (fuel : Nat) (rest : List CodePoint)
    (hfuel : vs.length < fuel) (h : ∀ u ∈ v :: vs, ReadBack element u) :
    readElements element fuel
      (writeParts ((v :: vs).map write) ++ .char ']' :: rest) =
        .ok (v :: vs, rest) := by
  induction vs generalizing v fuel with
  | nil =>
    obtain ⟨fuel, rfl⟩ : ∃ n, fuel = n + 1 := ⟨fuel - 1, by omega⟩
    have hv := (h v (by simp)).read (.char ']' :: rest) (ends_cons ']' rest (by simp))
    rw [List.map_singleton, writeParts_singleton, readElements, hv]
    rfl
  | cons u us ih =>
    obtain ⟨fuel, rfl⟩ : ∃ n, fuel = n + 1 := ⟨fuel - 1, by omega⟩
    obtain ⟨hfirst, hlater⟩ := List.forall_mem_cons.1 h
    have htail := ih u fuel (by simpa using hfuel) hlater
    have hskip := skipBlank_opened _ (.char ']' :: rest)
      (opened_writeParts _ (us.map write) (hlater u (by simp)).opened)
    simp only [List.map_cons] at htail ⊢
    rw [writeParts_cons_cons, readElements, hfirst.read _ (ends_cons ',' _ (by simp))]
    change (readElements element fuel (skipBlank (writeParts _ ++ _)) >>= fun r =>
      pure (v :: r.1, r.2)) = _
    rw [hskip, htail]
    rfl

theorem readArray_written (items : List Value) (rest : List CodePoint)
    (h : ∀ v ∈ items, ReadBack element v) :
    readArray element (writeParts (items.map write) ++ .char ']' :: rest) =
      .ok (.list items, rest) := by
  cases items with
  | nil => rfl
  | cons v vs =>
    have hopened := opened_writeParts _ (vs.map write) (h v (by simp)).opened
    have hcount := length_le_writeParts ((v :: vs).map write)
      (by simpa using fun u hu => (h u hu).opened)
    unfold readArray
    rw [← List.map_cons, skipBlank_opened _ _ hopened] at *
    split
    next after hclosed => exact absurd hclosed (opened_ne_cons _ _ _ _ hopened rfl)
    next =>
      rw [readElements_written element v vs _ rest _ h]
      · rfl
      · simp only [List.length_append, List.length_map, List.length_cons] at hcount ⊢
        omega

/-- An entry as it is written. -/
def writeEntry (e : Scalar × Value) : List CodePoint :=
  writeString (keyText e.1) ++ .char ':' :: .char ' ' :: write e.2

theorem opened_writeEntry (e : Scalar × Value) : Opened (writeEntry e) := ⟨'"', _, rfl, rfl⟩

theorem readMembers_entry (k : String) (v : Value) (fuel : Nat) (after : List CodePoint)
    (hv : ReadBack element v) (hafter : Ends after) :
    readMembers element (fuel + 1) (writeEntry (.text k, v) ++ after) =
      match skipBlank after with
      | .char '\x7d' :: rest => .ok ([(.text k, v)], rest)
      | .char ',' :: rest => do
        let (ms, rest) ← readMembers element fuel (skipBlank rest)
        pure ((.text k, v) :: ms, rest)
      | rest => .error (.fault .noComma rest) := by
  have htext : writeEntry (.text k, v) ++ after =
      .char '"' :: ((codePoints k.toList).flatMap escapePoint ++ .char '"' :: .char ':' ::
        .char ' ' :: (write v ++ after)) := by
    simp [writeEntry, writeString, keyText, Scalar.points, Scalar.toText]
  rw [htext, readMembers, readString_written]
  change (element (skipBlank (write v ++ after)) >>= _) = _
  rw [skipBlank_opened _ _ hv.opened, hv.read after hafter]
  rfl

theorem readMembers_written (e : Scalar × Value) (es : Value.Entries) (fuel : Nat)
    (rest : List CodePoint) (hfuel : es.length < fuel)
    (h : ∀ d ∈ e :: es, (∃ k, d.1 = .text k) ∧ ReadBack element d.2) :
    readMembers element fuel
      (writeParts ((e :: es).map writeEntry) ++ .char '\x7d' :: rest) =
        .ok (e :: es, rest) := by
  induction es generalizing e fuel with
  | nil =>
    obtain ⟨fuel, rfl⟩ : ∃ n, fuel = n + 1 := ⟨fuel - 1, by omega⟩
    obtain ⟨key, v⟩ := e
    obtain ⟨⟨k, rfl⟩, hv⟩ := h (key, v) (by simp)
    rw [List.map_singleton, writeParts_singleton]
    exact readMembers_entry element k v fuel _ hv (ends_cons '\x7d' rest (by simp))
  | cons d ds ih =>
    obtain ⟨fuel, rfl⟩ : ∃ n, fuel = n + 1 := ⟨fuel - 1, by omega⟩
    obtain ⟨hfirst, hlater⟩ := List.forall_mem_cons.1 h
    obtain ⟨key, v⟩ := e
    obtain ⟨⟨k, rfl⟩, hv⟩ := hfirst
    have htail := ih d fuel (by simpa using hfuel) hlater
    have hskip := skipBlank_opened _ (.char '\x7d' :: rest)
      (opened_writeParts _ (ds.map writeEntry) (opened_writeEntry d))
    simp only [List.map_cons] at htail ⊢
    rw [writeParts_cons_cons, readMembers_entry element k v fuel _ hv
      (ends_cons ',' _ (by simp))]
    change (readMembers element fuel (skipBlank (writeParts _ ++ _)) >>= fun r =>
      pure ((Scalar.text k, v) :: r.1, r.2)) = _
    rw [hskip, htail]
    rfl

theorem readObject_written (entries : Value.Entries) (rest : List CodePoint)
    (h : ∀ e ∈ entries, (∃ k, e.1 = .text k) ∧ ReadBack element e.2)
    (hdistinct : Table.Distinct entries) :
    readObject element (writeParts (entries.map writeEntry) ++
      .char '\x7d' :: rest) = .ok (.mapping entries, rest) := by
  cases entries with
  | nil => rfl
  | cons e es =>
    have hopened := opened_writeParts _ (es.map writeEntry) (opened_writeEntry e)
    have hcount := length_le_writeParts ((e :: es).map writeEntry)
      (List.forall_mem_map.2 fun d _ => opened_writeEntry d)
    unfold readObject
    rw [← List.map_cons, skipBlank_opened _ _ hopened] at *
    split
    next after hclosed => exact absurd hclosed (opened_ne_cons _ _ _ _ hopened rfl)
    next =>
      rw [readMembers_written element e es _ rest _ h]
      · change Except.ok (Value.mapping (Table.ofEntries (e :: es)), rest) = _
        rw [Table.ofEntries_eq_self _ hdistinct]
      · simp only [List.length_append, List.length_map, List.length_cons] at hcount ⊢
        omega

end Collections

theorem writeItems_eq (vs : List Value) : writeItems vs = vs.map write := by
  induction vs with
  | nil => rfl
  | cons v vs ih => rw [writeItems, ih, List.map_cons]

theorem writeEntries_eq (es : Value.Entries) : writeEntries es = es.map writeEntry := by
  induction es with
  | nil => rfl
  | cons e es ih => rw [writeEntries, ih, List.map_cons, writeEntry]

theorem opened_write (depth : Nat) (v : Value) (h : Plain depth v) : Opened (write v) := by
  cases h with
  | null => exact ⟨'n', codePoints "ull".toList, rfl, rfl⟩
  | bool _ b =>
    cases b with
    | true => exact ⟨'t', codePoints "rue".toList, rfl, rfl⟩
    | false => exact ⟨'f', codePoints "alse".toList, rfl, rfl⟩
  | int _ n _ => exact opened_decimal n
  | text _ s => exact ⟨'"', _, rfl, rfl⟩
  | list _ items _ => exact ⟨'[', _, rfl, rfl⟩
  | mapping _ entries _ _ _ => exact ⟨'\x7b', _, rfl, rfl⟩

/-- A plain value is read back from its written form, whatever mark comes after it. -/
theorem readBack_of_plain (depth : Nat) (v : Value) (h : Plain depth v) :
    ReadBack (readValue depth) v := by
  refine ⟨opened_write depth v h, ?_⟩
  -- The induction follows the value, the reader having one bracket less to open inside it.
  induction h with
  | null depth => exact fun rest _ => readValue_null depth rest
  | bool depth b => exact fun rest _ => readValue_bool depth rest b
  | int depth n hn => exact fun rest hrest => readValue_decimal depth n rest hn hrest
  | text depth s =>
    intro rest _
    have htext : write (.text s) ++ rest =
        .char '"' :: ((codePoints s.toList).flatMap escapePoint ++ .char '"' :: rest) := by
      simp [write, Value.text, writeScalar, writeString, Scalar.points, Scalar.toText]
    rw [htext, readValue_quote, readString_written]
    rfl
  | list depth items hitems ih =>
    intro rest _
    have htext : write (.list items) ++ rest =
        .char '[' :: (writeParts (items.map write) ++ .char ']' :: rest) := by
      simp [write, writeItems_eq]
    rw [htext]
    exact readArray_written (readValue depth) items rest fun v hv =>
      ⟨opened_write depth v (hitems v hv), ih v hv⟩
  | mapping depth entries hkeys hdistinct hvalues ih =>
    intro rest _
    have htext : write (.mapping entries) ++ rest =
        .char '\x7b' :: (writeParts (entries.map writeEntry) ++ .char '\x7d' :: rest) := by
      simp [write, writeEntries_eq]
    rw [htext]
    exact readObject_written (readValue depth) entries rest (fun e he =>
      ⟨hkeys e he, opened_write depth e.2 (hvalues e he), ih e he⟩) hdistinct

end DotPath.Json

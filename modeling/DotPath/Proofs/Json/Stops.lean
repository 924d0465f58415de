import DotPath.Proofs.Json.Places

set_option autoImplicit false

/-!
Why the reading of JSON stops. Each reader goes on through the text to the place that it leaves off
at. Where it stops without a fault of the text, there stands a whole number of too many digits, or a
bracket inside too many others; and there is no way past such a place.
-/

namespace DotPath.Json

open Number Text

/-- What makes a text too much for the reader: a whole number of more digits than a numeral may
have, or a bracket inside as many as may be open. -/
inductive Oversized (limit : Nat) (start : Place) : Stop → Prop where
  | numeral (k n : Nat) (ps : List CodePoint) (hplace : Leads limit start (k, ps))
    (hlong : readNumber? ps = some (.error (.numeral (.tooLong n)))) :
    Oversized limit start (.numeral (.tooLong n))
  | bracket (c : Char) (ps : List CodePoint) (hplace : Leads limit start (limit, .char c :: ps))
    (hc : c ∈ ['[', '\x7b']) : Oversized limit start .tooDeep

theorem Oversized.of_leads {limit : Nat} {a b : Place} {stop : Stop} (hab : Leads limit a b)
    (h : Oversized limit b stop) : Oversized limit a stop := by
  cases h with
  | numeral k n ps hplace hlong => exact .numeral k n ps (hab.trans hplace) hlong
  | bracket c ps hplace hc => exact .bracket c ps (hab.trans hplace) hc

/-- Why a reader stops at or after a place. -/
def Stopped (limit : Nat) (start : Place) (stop : Stop) : Prop :=
  (∃ reason rest, stop = .fault reason rest) ∨ Oversized limit start stop

theorem Stopped.of_leads {limit : Nat} {a b : Place} {stop : Stop} (hab : Leads limit a b)
    (h : Stopped limit b stop) : Stopped limit a stop := h.imp id (.of_leads hab)

/-- There is no way on from what makes a text too much. -/
theorem Oversized.stuck {limit : Nat} {start : Place} {stop : Stop}
    (h : Oversized limit start stop) :
    ∃ place, Leads limit start place ∧ next? limit place = none ∧ place.2 ≠ [] := by
  cases h with
  | numeral k n ps hplace hlong =>
    obtain ⟨c, after, rfl, hc⟩ := head_of_readNumber? ps _ hlong
    refine ⟨_, hplace, ?_, by simp⟩
    rw [next?_head limit k c after hc, hlong]
    cases hword : readWord? (.char c :: after) with
    | some r => simp [readNumber?_of_readWord? _ r hword] at hlong
    | none => rfl
  | bracket c ps hplace hc =>
    refine ⟨_, hplace, ?_, by simp⟩
    simp only [List.mem_cons, List.not_mem_nil, or_false] at hc
    rcases hc with rfl | rfl <;> simp [next?]

/-! ### Values -/

/-- What a reader gives at a place: it has gone on to one with `n` open brackets, or it stops. -/
def Goes {α : Type} (limit : Nat) (start : Place) (n : Nat)
    (out : Except Stop (α × List CodePoint)) : Prop :=
  (∃ a rest, out = .ok (a, rest) ∧ Leads limit start (n, rest)) ∨
    ∃ stop, out = .error stop ∧ Stopped limit start stop

namespace Goes

variable {α β : Type} {limit m n : Nat} {start : Place} {out : Except Stop (α × List CodePoint)}

theorem done (a : α) (rest : List CodePoint) (h : Leads limit start (n, rest)) :
    Goes limit start n (.ok (a, rest)) := .inl ⟨a, rest, rfl, h⟩

theorem fault (reason : Reason) (rest : List CodePoint) :
    Goes limit start n (.error (.fault reason rest) : Except Stop (α × List CodePoint)) :=
  .inr ⟨_, rfl, .inl ⟨reason, rest, rfl⟩⟩

theorem of_leads {a b : Place} (hab : Leads limit a b) (h : Goes limit b n out) :
    Goes limit a n out := by
  obtain ⟨x, rest, hout, hlead⟩ | ⟨stop, hout, hwhy⟩ := h
  · exact .inl ⟨x, rest, hout, hab.trans hlead⟩
  · exact .inr ⟨stop, hout, hwhy.of_leads hab⟩

theorem bind (f : α × List CodePoint → Except Stop (β × List CodePoint))
    (h : Goes limit start m out) (hf : ∀ a rest, Goes limit (m, rest) n (f (a, rest))) :
    Goes limit start n (out >>= f) := by
  obtain ⟨a, rest, rfl, hlead⟩ | ⟨stop, rfl, hwhy⟩ := h
  · exact (hf a rest).of_leads hlead
  · exact .inr ⟨stop, rfl, hwhy⟩

end Goes

section Collections

variable (limit k : Nat) (element : Reader Value)
  (helement : ∀ ps, Goes limit (k + 1, ps) (k + 1) (element ps))

include helement in
theorem goes_readElements (fuel : Nat) (ps : List CodePoint) :
    Goes limit (k + 1, ps) k (readElements element fuel ps) := by
  induction fuel generalizing ps with
  | zero => exact .fault .noComma ps
  | succ fuel ih =>
    refine (helement ps).bind _ fun v rest => .of_leads (leads_skipBlank limit (k + 1) rest) ?_
    dsimp only
    split
    next after hafter =>
      rw [hafter]
      exact .done _ _ (.single rfl)
    next after hafter =>
      rw [hafter]
      refine .of_leads (.head rfl (leads_skipBlank limit (k + 1) after)) ?_
      exact (ih (skipBlank after)).bind _ fun vs rest => .done _ _ .refl
    next => exact .fault .noComma _

theorem goes_readString (start ps : List CodePoint) :
    Goes limit (k, .char '"' :: ps) k (readString start ps) := by
  obtain ⟨s, rest, hread, hafter⟩ | ⟨reason, rest, hread⟩ := readString_cases start ps
  · rw [hread]
    exact .done s rest (.single (by simp [next?, hafter]))
  · rw [hread]
    exact .fault reason rest

include helement in
theorem goes_readMembers (fuel : Nat) (ps : List CodePoint) :
    Goes limit (k + 1, ps) k (readMembers element fuel ps) := by
  induction fuel generalizing ps with
  | zero => exact .fault .noComma ps
  | succ fuel ih =>
    unfold readMembers
    split
    next heq => cases heq
    next fuel' quoted heq =>
      obtain rfl : fuel' = fuel := by omega
      refine (goes_readString limit (k + 1) _ quoted).bind _ fun key rest =>
        .of_leads (leads_skipBlank limit (k + 1) rest) ?_
      dsimp only
      split
      next after hafter =>
        rw [hafter]
        refine .of_leads (.head rfl (leads_skipBlank limit (k + 1) after)) ?_
        refine (helement (skipBlank after)).bind _ fun v rest =>
          .of_leads (leads_skipBlank limit (k + 1) rest) ?_
        dsimp only
        split
        next last hlast =>
          rw [hlast]
          exact .done _ _ (.single rfl)
        next more hmore =>
          rw [hmore]
          refine .of_leads (.head rfl (leads_skipBlank limit (k + 1) more)) ?_
          exact (ih (skipBlank more)).bind _ fun ms rest => .done _ _ .refl
        next => exact .fault .noComma _
      next => exact .fault .noColon _
    next => exact .fault .noKey _

include helement in
theorem goes_readArray (ps : List CodePoint) :
    Goes limit (k + 1, ps) k (readArray element ps) := by
  refine .of_leads (leads_skipBlank limit (k + 1) ps) ?_
  unfold readArray
  split
  next after hafter =>
    rw [hafter]
    exact .done _ _ (.single rfl)
  next =>
    exact (goes_readElements limit k element helement _ _).bind _ fun vs rest => .done _ _ .refl

include helement in
theorem goes_readObject (ps : List CodePoint) :
    Goes limit (k + 1, ps) k (readObject element ps) := by
  refine .of_leads (leads_skipBlank limit (k + 1) ps) ?_
  unfold readObject
  split
  next after hafter =>
    rw [hafter]
    exact .done _ _ (.single rfl)
  next =>
    exact (goes_readMembers limit k element helement _ _).bind _ fun ms rest => .done _ _ .refl

end Collections

theorem goes_readLeaf (limit k : Nat) (ps : List CodePoint) :
    Goes limit (k, ps) k
      (match readWord? ps with
      | some r => .ok r
      | none => (readNumber? ps).getD (.error (.fault .noValue ps))) := by
  cases hword : readWord? ps with
  | some r =>
    obtain ⟨c, after, rfl, hc⟩ := head_of_readWord? ps r hword
    refine .done r.1 r.2 (.single ?_)
    rw [next?_head limit k c after hc, hword]
  | none =>
    cases hnumber : readNumber? ps with
    | none => exact .fault .noValue ps
    | some r =>
      obtain ⟨c, after, rfl, hc⟩ := head_of_readNumber? ps r hnumber
      cases r with
      | ok r =>
        refine .done r.1 r.2 (.single ?_)
        rw [next?_head limit k c after hc, hword, hnumber]
      | error stop =>
        obtain ⟨n, rfl⟩ := tooLong_of_readNumber? _ stop hnumber
        exact .inr ⟨_, rfl, .inr (.numeral k n _ .refl hnumber)⟩

/-- The brackets that may still be opened and those that are open are as many as may be. -/
theorem goes_readValue (depth k : Nat) (ps : List CodePoint) :
    Goes (k + depth) (k, ps) k (readValue depth ps) := by
  induction depth generalizing k ps with
  | zero =>
    unfold readValue
    split
    · exact (goes_readString k k _ _).bind _ fun s rest => .done _ _ .refl
    next body _ => exact .inr ⟨_, rfl, .inr (.bracket '[' body .refl (by simp))⟩
    next body _ => exact .inr ⟨_, rfl, .inr (.bracket '\x7b' body .refl (by simp))⟩
    next h => cases h
    next h => cases h
    · exact goes_readLeaf _ k _
  | succ depth ih =>
    have hlimit : k + 1 + depth = k + (depth + 1) := by omega
    have helement := hlimit ▸ ih (k + 1)
    unfold readValue
    split
    · exact (goes_readString _ k _ _).bind _ fun s rest => .done _ _ .refl
    next h => cases h
    next h => cases h
    next free body hfree =>
      obtain rfl : free = depth := by omega
      exact .of_leads (.single (by simp [next?])) (goes_readArray _ k _ helement body)
    next free body hfree =>
      obtain rfl : free = depth := by omega
      exact .of_leads (.single (by simp [next?])) (goes_readObject _ k _ helement body)
    · exact goes_readLeaf _ k _

/-- Brackets, more than may be open at once. -/
theorem readValue_brackets (depth n : Nat) (h : depth < n) :
    readValue depth (codePoints (List.replicate n '[')) = .error .tooDeep := by
  induction depth generalizing n with
  | zero =>
    obtain ⟨n, rfl⟩ : ∃ m, n = m + 1 := ⟨n - 1, by omega⟩
    rfl
  | succ depth ih =>
    obtain ⟨n, rfl⟩ : ∃ m, n = m + 2 := ⟨n - 2, by omega⟩
    change (readElements (readValue depth) _ (codePoints (List.replicate (n + 1) '[')) >>= _) = _
    rw [readElements, ih (n + 1) (by omega)]
    rfl

variable [Host]

/-- A text is gone through to its end and read, or its reading stops. -/
theorem goes_read (text : List CodePoint) :
    (∃ v, read text = .ok v ∧ Leads Host.readingDepth (0, text) (0, [])) ∨
      ∃ stop, read text = .error stop ∧ Stopped Host.readingDepth (0, text) stop := by
  have hblank := leads_skipBlank Host.readingDepth 0
  have hgoes := goes_readValue Host.readingDepth 0 (skipBlank text)
  rw [Nat.zero_add] at hgoes
  rw [read, readWithin]
  obtain ⟨v, rest, hread, hlead⟩ | ⟨stop, hread, hwhy⟩ := hgoes <;> rw [hread]
  · cases hend : skipBlank rest with
    | nil =>
      have hlast := hblank rest
      rw [hend] at hlast
      exact .inl ⟨v, by simp [bind, Except.bind, hend, pure, Except.pure],
        ((hblank text).trans hlead).trans hlast⟩
    | cons p after =>
      exact .inr ⟨.fault .extraData (p :: after), by simp [bind, Except.bind, hend]; rfl,
        .inl ⟨_, _, rfl⟩⟩
  · exact .inr ⟨stop, rfl, hwhy.of_leads (hblank text)⟩

theorem stopped_of_read (text : List CodePoint) (stop : Stop) (h : read text = .error stop) :
    Stopped Host.readingDepth (0, text) stop := by
  obtain ⟨v, hread, -⟩ | ⟨why, hread, hwhy⟩ := goes_read text <;> rw [hread] at h
  · cases h
  · exact Except.error.inj h ▸ hwhy

theorem stopped_of_readText (text : List CodePoint) (stop : Stop)
    (h : readText text = .error stop) : Stopped Host.readingDepth (0, text) stop := by
  unfold readText at h
  split at h
  · exact .inl ⟨_, _, (Except.error.inj h).symm⟩
  · exact stopped_of_read text stop h

/-- A text that is too much is never read. -/
theorem Oversized.not_read {text : List CodePoint} {stop : Stop}
    (h : Oversized Host.readingDepth (0, text) stop) (v : Value) : read text ≠ .ok v := by
  intro hv
  obtain ⟨w, -, hend⟩ | ⟨why, hread, -⟩ := goes_read text
  · obtain ⟨place, hplace, hstuck, hne⟩ := h.stuck
    have hunique : Relator.RightUnique fun a b => next? Host.readingDepth a = some b :=
      fun a b c hb hc => Option.some.inj (hb.symm.trans hc)
    -- Of two places on the one way, one leads to the other; but there is no way on from either.
    obtain hlead | hlead := Relation.ReflTransGen.total_of_right_unique hunique hplace hend
    · obtain rfl | ⟨after, hnext, -⟩ := hlead.cases_head
      · exact hne rfl
      · rw [hstuck] at hnext
        cases hnext
    · obtain hsame | ⟨after, hnext, -⟩ := hlead.cases_head
      · exact hne (by rw [← hsame])
      · cases hnext
  · rw [hread] at hv
    cases hv

end DotPath.Json

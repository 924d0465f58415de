import DotPath.Proofs.Numeral
import DotPath.Proofs.Outcome
import DotPath.Proofs.Text.Split
import DotPath.Release

set_option autoImplicit false

/-!
The latest version of a history. A version has for its rank the numbers between its points, ranks
stand in the order of dictionaries, and the latest version is the first one of the greatest rank.
-/

namespace DotPath.Release

open Number Text

/-- The parts of a version that are numbers. -/
def numberParts (version : String) : List (List Char) :=
  (version.toList.splitOn '.').filter fun part => !part.isEmpty && part.all Char.isDigit

/-- The numbers of a version. A rank is smaller than every longer one that begins with it. -/
def rank (version : String) : List ℕ :=
  (numberParts version).map fun part => Nat.ofDigitChars 10 part 0

/-- A version in ASCII none of whose numbers is too long to be read. -/
structure Readable (version : String) : Prop where
  ascii : ∀ c ∈ version.toList, c.toNat < 128
  short : ∀ part ∈ numberParts version, part.length ≤ digitLimit

instance (version : String) : Decidable (Readable version) :=
  decidable_of_iff
    (version.toList.all (·.toNat < 128) ∧ ∀ part ∈ numberParts version, part.length ≤ digitLimit)
    ⟨fun h => ⟨by simpa using h.1, h.2⟩, fun h => ⟨by simpa using h.ascii, h.short⟩⟩

/-! ### Ranks -/

theorem isDigitLike_of_ascii (c : Char) (h : c.toNat < 128) : isDigitLike c = c.isDigit := by
  have hascii : ∀ n < 128, isDigitLike (Char.ofNat n) = (Char.ofNat n).isDigit := by
    decide +kernel
  simpa [Char.ofNat_toNat] using hascii c.toNat h

theorem filter_isNumberPart (version : String) (h : Readable version) :
    (split '.' version.toList).filter isNumberPart = numberParts version := by
  rw [numberParts, ← split_eq_splitOn]
  refine List.filter_congr fun part hpart => ?_
  rw [isNumberPart, Bool.eq_iff_iff]
  simp only [Bool.and_eq_true, List.all_eq_true, and_congr_right_iff]
  refine fun _ => forall₂_congr fun c hc => ?_
  rw [isDigitLike_of_ascii c (h.ascii c (mem_of_mem_split '.' _ part hpart c hc).1)]

theorem readPart_eq (part : List Char) (hne : part ≠ []) (hdigits : ∀ c ∈ part, c.isDigit)
    (hshort : part.length ≤ digitLimit) :
    readPart part = .ok (Nat.ofDigitChars 10 part 0 : ℕ) := by
  have hascii : ∀ c ∈ part, isAsciiDigit c := fun c hc => isAsciiDigit_of_isDigit c (hdigits c hc)
  rw [readPart, readInteger_digits part hne hascii, if_neg (by omega),
    ofDigits_eq_ofDigitChars part hascii]
  rfl

theorem numbers_eq (version : String) (h : Readable version) :
    numbers version = .ok ((rank version).map Int.ofNat) := by
  rw [numbers, filter_isNumberPart version h, mapM_ok_iff, rank, List.map_map,
    List.forall₂_map_right_iff, List.forall₂_same]
  intro part hpart
  obtain ⟨-, hnumber⟩ := List.mem_filter.1 hpart
  rw [Bool.and_eq_true, List.all_eq_true] at hnumber
  exact readPart_eq part (by simpa using hnumber.1) hnumber.2 (h.short part hpart)

theorem comesBefore_iff (ms ns : List ℕ) :
    comesBefore (ms.map Int.ofNat) (ns.map Int.ofNat) ↔ ms < ns := by
  induction ms generalizing ns with
  | nil => cases ns <;> simp [comesBefore]
  | cons m ms ih =>
    cases ns with
    | nil => simp [comesBefore]
    | cons n ns => simp [comesBefore, ih, List.cons_lt_cons_iff]

/-! ### The greatest rank -/

/-- Of the first two versions the second one is passed over unless its rank is greater. -/
theorem argmax_rank_cons (u v : String) (vs : List String) :
    (u :: v :: vs).argmax rank = ((if rank u < rank v then v else u) :: vs).argmax rank := by
  simp [List.argmax, List.argAux, apply_ite some]

theorem argmax_rank_eq_some_iff (vs : List String) (v : String) :
    vs.argmax rank = some v ↔ v ∈ vs ∧ (∀ k ∈ vs, rank k ≤ rank v) ∧
      ∀ k ∈ vs, rank v ≤ rank k → vs.idxOf v ≤ vs.idxOf k := by
  -- The library decides the order of lists in two ways, which are the same.
  convert List.argmax_eq_some_iff

theorem exists_latestFrom (best : String) (vs : List String) (h : ∀ v ∈ vs, Readable v) :
    ∃ v, latestFrom best ((rank best).map Int.ofNat) vs = .ok v ∧
      (best :: vs).argmax rank = some v := by
  induction vs generalizing best with
  | nil => exact ⟨best, rfl, rfl⟩
  | cons v vs ih =>
    obtain ⟨hv, hvs⟩ := List.forall_mem_cons.1 h
    rw [latestFrom, numbers_eq v hv, argmax_rank_cons]
    change ∃ w, ite _ _ _ = _ ∧ _
    by_cases hlt : rank best < rank v
    · rw [if_pos ((comesBefore_iff _ _).2 hlt), if_pos hlt]
      exact ih v hvs
    · rw [if_neg fun hbefore => hlt ((comesBefore_iff _ _).1 hbefore), if_neg hlt]
      exact ih best hvs

/-- The latest version is the one of the greatest rank, and the first of these. -/
theorem latest_eq_ok_iff (h : History) (hkeys : ∀ k ∈ Table.keys h, Readable k) (v : String) :
    latest h = .ok v ↔ (Table.keys h).argmax rank = some v := by
  unfold latest
  cases hk : Table.keys h with
  | nil => simp
  | cons u vs =>
    rw [hk] at hkeys
    obtain ⟨hu, hvs⟩ := List.forall_mem_cons.1 hkeys
    obtain ⟨w, hw, hmax⟩ := exists_latestFrom u vs hvs
    change (numbers u >>= fun ns => latestFrom u ns vs) = .ok v ↔ _
    rw [numbers_eq u hu, hmax, Option.some.injEq]
    change latestFrom u _ vs = .ok v ↔ _
    rw [hw, Except.ok.injEq]

theorem exists_latest (h : History) (hne : h ≠ []) (hkeys : ∀ k ∈ Table.keys h, Readable k) :
    ∃ v, latest h = .ok v := by
  have hmax : (Table.keys h).argmax rank ≠ none := by simpa [Table.keys] using hne
  obtain ⟨v, hv⟩ := Option.ne_none_iff_exists'.1 hmax
  exact ⟨v, (latest_eq_ok_iff h hkeys v).2 hv⟩

section Latest

variable (h : History) (hkeys : ∀ k ∈ Table.keys h, Readable k) (v : String) (hv : latest h = .ok v)

include hkeys hv

theorem latest_mem : v ∈ Table.keys h :=
  ((argmax_rank_eq_some_iff _ v).1 ((latest_eq_ok_iff h hkeys v).1 hv)).1

theorem rank_le_latest (k : String) (hk : k ∈ Table.keys h) : rank k ≤ rank v :=
  ((argmax_rank_eq_some_iff _ v).1 ((latest_eq_ok_iff h hkeys v).1 hv)).2.1 k hk

theorem rank_lt_latest (k : String)
    (hk : (Table.keys h).idxOf k < (Table.keys h).idxOf v) : rank k < rank v := by
  have hmem : k ∈ Table.keys h := List.idxOf_lt_length_iff.1 (hk.trans_le List.idxOf_le_length)
  obtain ⟨-, -, hfirst⟩ := (argmax_rank_eq_some_iff _ v).1 ((latest_eq_ok_iff h hkeys v).1 hv)
  by_contra hle
  exact absurd (hfirst k hmem (not_lt.1 hle)) (by omega)

/-- Where no two versions have one rank, the order of the history does not matter. -/
theorem latest_of_perm (hrank : ((Table.keys h).map rank).Nodup) (h' : History)
    (hperm : h'.Perm h) :
    latest h' = .ok v := by
  have hmem (k : String) : k ∈ Table.keys h' ↔ k ∈ Table.keys h := (hperm.map _).mem_iff
  have hkeys' : ∀ k ∈ Table.keys h', Readable k := fun k hk => hkeys k ((hmem k).1 hk)
  have hne : h' ≠ [] := by
    rintro rfl
    simpa using (hmem v).2 (latest_mem h hkeys v hv)
  obtain ⟨w, hw⟩ := exists_latest h' hne hkeys'
  have hwmem := (hmem w).1 (latest_mem h' hkeys' w hw)
  have hle := rank_le_latest h hkeys v hv w hwmem
  have hge := rank_le_latest h' hkeys' w hw v ((hmem v).2 (latest_mem h hkeys v hv))
  rw [hw, List.inj_on_of_nodup_map hrank hwmem (latest_mem h hkeys v hv) (le_antisymm hle hge)]

/-- A version at the end is the latest one only if its rank is greater than all others. -/
theorem latest_concat (k : String) (r : Release) (hk : Readable k) :
    latest (h ++ [(k, r)]) = .ok (if rank v < rank k then k else v) := by
  have happend : Table.keys (h ++ [(k, r)]) = Table.keys h ++ [k] := List.map_append
  have hreadable : ∀ j ∈ Table.keys (h ++ [(k, r)]), Readable j := by
    rw [happend]
    simpa [or_imp, forall_and] using ⟨hkeys, hk⟩
  rw [latest_eq_ok_iff _ hreadable, happend, List.argmax_concat,
    (latest_eq_ok_iff h hkeys v).1 hv]
  exact (apply_ite some _ _ _).symm

end Latest

/-- The latest version is the first of the greatest rank: ranks in front of it are smaller. So the
order of a history matters only among versions of one rank, and a new version at the end becomes the
latest just when its rank is greater. -/
theorem latest_first_maximum (h : History) (hne : h ≠ [])
    (hkeys : ∀ k ∈ Table.keys h, Readable k) :
    ∃ v ∈ Table.keys h, latest h = .ok v ∧
      (∀ k ∈ Table.keys h, rank k ≤ rank v ∧
        ((Table.keys h).idxOf k < (Table.keys h).idxOf v → rank k < rank v)) ∧
      (((Table.keys h).map rank).Nodup → ∀ h' : History, h'.Perm h → latest h' = .ok v) ∧
      ∀ (k : String) (r : Release), k ∉ Table.keys h → Readable k →
        (latest (h ++ [(k, r)]) = .ok k ↔ rank v < rank k) ∧
        (¬ rank v < rank k → latest (h ++ [(k, r)]) = .ok v) := by
  obtain ⟨v, hv⟩ := exists_latest h hne hkeys
  have hmem := latest_mem h hkeys v hv
  refine ⟨v, hmem, hv, fun k hk => ⟨rank_le_latest h hkeys v hv k hk,
    rank_lt_latest h hkeys v hv k⟩, latest_of_perm h hkeys v hv, fun k r hnew hk => ?_⟩
  have hne : v ≠ k := by
    rintro rfl
    exact hnew hmem
  rw [latest_concat h hkeys v hv k r hk]
  by_cases hlt : rank v < rank k
  · simp [hlt]
  · simp [hlt, hne]

theorem latest_first_maximum_equal_rank :
    let h : History := ["0.0.9", "0.0.10", "0.0.x"].map fun v => (v, { version := v })
    h ≠ [] ∧ (∀ k ∈ Table.keys h, Readable k) ∧ latest h = .ok "0.0.10" ∧
      latest h.reverse = .ok "0.0.10" ∧
      latest (h ++ [("00.0.010", { version := "00.0.010" })]) = .ok "0.0.10" ∧
      latest (h ++ [("0.1", { version := "0.1" })]) = .ok "0.1" := by
  intro h
  have hne : h ≠ [] := by simp [h]
  have hkeys : ∀ k ∈ Table.keys h, Readable k := by decide +kernel
  have hlatest : latest h = .ok "0.0.10" := by decide +kernel
  obtain ⟨v, -, hv, -, hperm, hend⟩ := latest_first_maximum h hne hkeys
  obtain rfl : v = "0.0.10" := Except.ok.inj (hv.symm.trans hlatest)
  have hrank : ((Table.keys h).map rank).Nodup := by decide +kernel
  obtain ⟨-, hequal⟩ := hend "00.0.010" { version := "00.0.010" } (by decide) (by decide +kernel)
  obtain ⟨hgreater, -⟩ := hend "0.1" { version := "0.1" } (by decide) (by decide +kernel)
  exact ⟨hne, hkeys, hv, hperm hrank _ h.reverse_perm, hequal (by decide +kernel),
    hgreater.2 (by decide +kernel)⟩

end DotPath.Release

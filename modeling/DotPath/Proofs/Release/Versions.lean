import DotPath.Proofs.Outcome
import DotPath.Release.Status

set_option autoImplicit false

/-!
Versions that are no texts. No release is found under them, and there is no problem that could tell
so: whoever asks for one gets an error that is not documented.
-/

namespace DotPath.Release

theorem fromItems_error_iff (i : Nat) (vs : List Value) :
    (∃ c, ErrorRecord.textsOf.fromItems i vs = .error c) ↔ ∃ v ∈ vs, v.plainText? = none := by
  induction vs generalizing i with
  | nil => simp [ErrorRecord.textsOf.fromItems]
  | cons v vs ih =>
    cases hv : v.plainText? with
    | none => simp [ErrorRecord.textsOf.fromItems, hv]
    | some s =>
      have hstep : (∃ c, ErrorRecord.textsOf.fromItems i (v :: vs) = .error c) ↔
          ∃ c, ErrorRecord.textsOf.fromItems (i + 1) vs = .error c := by
        rw [ErrorRecord.textsOf.fromItems, hv]
        cases ErrorRecord.textsOf.fromItems (i + 1) vs <;> simp [Functor.map, Except.map]
      rw [hstep, ih]
      simp [hv]

theorem crashes_notFound_iff {α : Type} (vs : List Value) :
    Crashes (.error (notFound vs) : Except Failure α) ↔ ∃ v ∈ vs, v.plainText? = none := by
  rw [← fromItems_error_iff 0]
  unfold notFound ErrorRecord.textsOf
  cases hitems : ErrorRecord.textsOf.fromItems 0 vs <;> simp [hitems, Problem.failure]

theorem find?_of_not_text (h : History) (v : Value) (hv : v.plainText? = none) :
    (∃ c, find? h v = .error c) ∨ find? h v = .ok none := by
  have htext : v.text? = none := by
    unfold Value.plainText? at hv
    unfold Value.text?
    split <;> simp_all
  unfold find?
  cases v.asKey with
  | error c => exact .inl ⟨c, rfl⟩
  | ok u => exact .inr (by rw [htext]; rfl)

theorem find?_of_text (h : History) (v : Value) (s : String) (hv : v.plainText? = some s) :
    ∃ r, find? h v = .ok r := by
  unfold Value.plainText? at hv
  split at hv
  · exact ⟨_, rfl⟩
  · exact ⟨_, rfl⟩
  · cases hv

/-- Every release can be compared with the latest one of the program's own history. -/
theorem exists_latestRelease : ∃ l, latestRelease history = .ok l := ⟨_, by rfl⟩

theorem crashes_checkSecurity_iff (current : Value) :
    Crashes (checkSecurity history current) ↔ current.plainText? = none := by
  have hmissing : Crashes (.error (notFound [current]) : Except Failure Security) ↔
      current.plainText? = none := by
    rw [crashes_notFound_iff]
    simp
  unfold checkSecurity
  cases hv : current.plainText? with
  | none =>
    obtain ⟨c, hfind⟩ | hfind := find?_of_not_text history current hv <;> rw [hfind]
    · exact iff_of_true ⟨c, rfl⟩ rfl
    · exact iff_of_true (hmissing.2 hv) rfl
  | some s =>
    obtain ⟨r, hfind⟩ := find?_of_text history current s hv
    obtain ⟨l, hlatest⟩ := exists_latestRelease
    rw [hfind, hlatest]
    cases r with
    | none => exact iff_of_false (fun h => by simpa [hv] using hmissing.1 h) (by simp)
    | some found => exact iff_of_false (not_crashes_ok _) (by simp)

theorem crashes_checkMigration_iff (h : History) (current target : Value) :
    Crashes (checkMigration h current target) ↔
      current.plainText? = none ∨ target.plainText? = none := by
  have hmissing : Crashes (.error (notFound [current, target]) : Except Failure Migration) ↔
      current.plainText? = none ∨ target.plainText? = none := by
    rw [crashes_notFound_iff]
    simp
  unfold checkMigration
  cases hcurrent : current.plainText? with
  | none =>
    refine iff_of_true ?_ (.inl rfl)
    obtain ⟨c, hc⟩ | hc := find?_of_not_text h current hcurrent <;> rw [hc]
    · exact ⟨c, rfl⟩
    · cases find? h target with
      | error c => exact ⟨c, rfl⟩
      | ok t => exact hmissing.2 (.inl hcurrent)
  | some s =>
    obtain ⟨c, hc⟩ := find?_of_text h current s hcurrent
    rw [hc]
    cases htarget : target.plainText? with
    | none =>
      refine iff_of_true ?_ (.inr rfl)
      have hthrown := hmissing.2 (.inr htarget)
      obtain ⟨d, ht⟩ | ht := find?_of_not_text h target htarget <;> rw [ht]
      · exact ⟨d, rfl⟩
      · cases c <;> exact hthrown
    | some t =>
      refine iff_of_false ?_ (by simp)
      have hthrown : ¬ Crashes (.error (notFound [current, target]) : Except Failure Migration) :=
        fun h => by simpa [hcurrent, htarget] using hmissing.1 h
      obtain ⟨d, ht⟩ := find?_of_text h target t htarget
      rw [ht]
      cases c with
      | none => exact hthrown
      | some c =>
        cases d with
        | none => exact hthrown
        | some d => exact not_crashes_ok _

end DotPath.Release

import DotPath.Proofs.Release.Latest
import DotPath.Proofs.Table.Merged
import DotPath.Release.Status

set_option autoImplicit false

/-!
How a version stands to the latest one of its history. Both reports are about the versions that are
there, the advice on security repeats what a move to the latest version would improve, and a version
is in want of that advice just when its rank is below the greatest.
-/

namespace DotPath.Release

/-! ### Versions that are there -/

theorem checkSecurity_text (h : History) (current : String) :
    checkSecurity h (.text current) =
      match Table.get? h current with
      | none => .error (Problem.versionNotFound [current]).failure
      | some r => (latestRelease h).mapError Failure.crash >>= fun l =>
          .ok (securityOf (current, r) l) := by
  unfold checkSecurity
  have hfind : find? h (.text current) = .ok ((Table.get? h current).map (current, ·)) := rfl
  rw [hfind]
  cases Table.get? h current <;> rfl

theorem checkMigration_text (h : History) (current target : String) :
    checkMigration h (.text current) (.text target) =
      match Table.get? h current, Table.get? h target with
      | some _, some r => .ok (migrationTo current (target, r))
      | _, _ => .error (Problem.versionNotFound [current, target]).failure := by
  unfold checkMigration
  have hfind (v : String) : find? h (.text v) = .ok ((Table.get? h v).map (v, ·)) := rfl
  rw [hfind, hfind]
  cases Table.get? h current <;> cases Table.get? h target <;> rfl

theorem checkMigration_of_mem (h : History) (current target : String) (r : Release)
    (hcurrent : current ∈ Table.keys h) (hr : Table.get? h target = some r) :
    checkMigration h (.text current) (.text target) = .ok (migrationTo current (target, r)) := by
  obtain ⟨c, hc⟩ := (Table.mem_keys_iff h current).1 hcurrent
  rw [checkMigration_text, hc, hr]

theorem checkMigration_error_iff (h : History) (current target : String) :
    checkMigration h (.text current) (.text target) =
        .error (Problem.versionNotFound [current, target]).failure ↔
      current ∉ Table.keys h ∨ target ∉ Table.keys h := by
  rw [checkMigration_text, ← Table.get?_eq_none_iff_notMem, ← Table.get?_eq_none_iff_notMem]
  cases Table.get? h current <;> cases Table.get? h target <;> simp

theorem checkSecurity_error_iff (h : History) (current : String) :
    checkSecurity h (.text current) = .error (Problem.versionNotFound [current]).failure ↔
      current ∉ Table.keys h := by
  rw [checkSecurity_text, ← Table.get?_eq_none_iff_notMem]
  cases Table.get? h current with
  | none => simp
  | some r =>
    refine iff_of_false (fun hfault => ?_) nofun
    dsimp only at hfault
    cases hlatest : latestRelease h <;> rw [hlatest] at hfault <;> cases hfault

/-! ### The advice -/

theorem hasIssues_securityOf (version latest : String × Release) :
    (securityOf version latest).hasIssues ↔ version.1 ≠ latest.1 ∧ latest.2.securityFixes ≠ [] := by
  simp [securityOf]

theorem recommendations_eq_nil_iff (version latest : String × Release) :
    (securityOf version latest).recommendations = [] ↔
      (securityOf version latest).hasIssues = false := by
  rw [securityOf]
  dsimp only
  split
  next h => simp [h]
  next h => simpa using h

theorem recommendations_of_hasIssues (version latest : String × Release)
    (h : (securityOf version latest).hasIssues) :
    (securityOf version latest).recommendations =
      ("Upgrade to version " ++ latest.1 ++ " for security improvements:") ::
        latest.2.securityFixes.map ("  - " ++ ·) := by
  rw [securityOf] at h ⊢
  dsimp only at h ⊢
  rw [if_pos h]
  rfl

theorem exists_securityOf (h : History) (current : String) (s : Security)
    (hs : checkSecurity h (.text current) = .ok s) :
    ∃ c l, Table.get? h current = some c ∧ latestRelease h = .ok l ∧
      s = securityOf (current, c) l := by
  rw [checkSecurity_text] at hs
  split at hs
  next => cases hs
  next c hc =>
    obtain ⟨l, hl, hs⟩ := (bind_eq_ok_iff _ _ _).1 hs
    exact ⟨c, l, hc, (mapError_eq_ok_iff _ _ l).1 hl, (Except.ok.inj hs).symm⟩

theorem latestRelease_of_latest (h : History) (v : String) (r : Release) (hv : latest h = .ok v)
    (hr : Table.get? h v = some r) : latestRelease h = .ok (v, r) := by
  rw [latestRelease, hv]
  change Except.ok (v, (Table.get? h v).getD { version := v }) = _
  rw [hr]
  rfl

theorem checkSecurity_of_latest (h : History) (current v : String) (c r : Release)
    (hc : Table.get? h current = some c) (hv : latest h = .ok v) (hr : Table.get? h v = some r) :
    checkSecurity h (.text current) = .ok (securityOf (current, c) (v, r)) := by
  rw [checkSecurity_text, hc, latestRelease_of_latest h v r hv hr]
  rfl

section Readable

variable (h : History) (hkeys : ∀ k ∈ Table.keys h, Readable k)

include hkeys

/-- The security of a version that is there is told of its release and the latest one. -/
theorem exists_checkSecurity (current : String) (hcurrent : current ∈ Table.keys h) :
    ∃ c v r, Table.get? h current = some c ∧ latest h = .ok v ∧ Table.get? h v = some r ∧
      checkSecurity h (.text current) = .ok (securityOf (current, c) (v, r)) := by
  obtain ⟨c, hc⟩ := (Table.mem_keys_iff h current).1 hcurrent
  have hne : h ≠ [] := by
    rintro rfl
    cases hc
  obtain ⟨v, hv⟩ := exists_latest h hne hkeys
  obtain ⟨r, hr⟩ := (Table.mem_keys_iff h v).1 (latest_mem h hkeys v hv)
  exact ⟨c, v, r, hc, hv, hr, checkSecurity_of_latest h current v c r hc hv hr⟩

theorem checkSecurity_eq_ok (current : String) (s : Security)
    (hs : checkSecurity h (.text current) = .ok s) :
    ∃ c v r, Table.get? h current = some c ∧ latest h = .ok v ∧ Table.get? h v = some r ∧
      s = securityOf (current, c) (v, r) := by
  obtain ⟨c, l, hc, -, -⟩ := exists_securityOf h current s hs
  have hcurrent := (Table.mem_keys_iff h current).2 ⟨c, hc⟩
  obtain ⟨c, v, r, hc, hv, hr, hsecurity⟩ := exists_checkSecurity h hkeys current hcurrent
  exact ⟨c, v, r, hc, hv, hr, Except.ok.inj (hs.symm.trans hsecurity)⟩

variable (hrank : ((Table.keys h).map rank).Nodup) (v : String) (hv : latest h = .ok v)

include hrank hv

theorem rank_lt_latest_iff (k : String) (hk : k ∈ Table.keys h) : rank k < rank v ↔ k ≠ v := by
  have hle := rank_le_latest h hkeys v hv k hk
  constructor
  · rintro hlt rfl
    exact lt_irrefl _ hlt
  · refine fun hne => lt_of_le_of_ne hle fun heq => hne ?_
    exact List.inj_on_of_nodup_map hrank hk (latest_mem h hkeys v hv) heq

theorem checkSecurity_of_perm (current : String) (c r : Release)
    (hc : Table.get? h current = some c) (hr : Table.get? h v = some r) (h' : History)
    (hperm : h'.Perm h) :
    checkSecurity h' (.text current) = .ok (securityOf (current, c) (v, r)) := by
  have hget := Table.get?_of_perm h' h hperm (List.Nodup.of_map rank hrank)
  exact checkSecurity_of_latest h' current v c r (by rw [hget, hc])
    (latest_of_perm h hkeys v hv hrank h' hperm) (by rw [hget, hr])

end Readable

/-- Both reports are given for versions that are there, and only for these. The advice is that of a
move to the latest version. Where no two versions have one rank it goes to the versions of smaller
rank, if the latest one has fixes, whatever the order of the history. -/
theorem advice_follows_rank (h : History) (hkeys : ∀ k ∈ Table.keys h, Readable k) :
    (∀ current target : String,
      (current ∈ Table.keys h → ∃ s, checkSecurity h (.text current) = .ok s) ∧
      (checkSecurity h (.text current) = .error (Problem.versionNotFound [current]).failure ↔
        current ∉ Table.keys h) ∧
      (current ∈ Table.keys h → target ∈ Table.keys h →
        ∃ m, checkMigration h (.text current) (.text target) = .ok m) ∧
      (checkMigration h (.text current) (.text target) =
          .error (Problem.versionNotFound [current, target]).failure ↔
        current ∉ Table.keys h ∨ target ∉ Table.keys h)) ∧
    ∀ (current : String) (s : Security), checkSecurity h (.text current) = .ok s →
      ∃ v r m, latest h = .ok v ∧ Table.get? h v = some r ∧
        checkMigration h (.text current) (.text v) = .ok m ∧
        (s.recommendations = [] ↔ s.hasIssues = false) ∧
        (s.hasIssues → s.recommendations =
          ("Upgrade to version " ++ v ++ " for security improvements:") ::
            m.securityImprovements.map ("  - " ++ ·)) ∧
        (((Table.keys h).map rank).Nodup →
          (s.hasIssues ↔ rank current < rank v ∧ r.securityFixes ≠ []) ∧
          (s.hasIssues → ∀ (older : String) (t : Security), rank older < rank current →
            checkSecurity h (.text older) = .ok t → t.hasIssues) ∧
          ∀ h' : History, h'.Perm h → checkSecurity h' (.text current) = .ok s) := by
  refine ⟨fun current target => ⟨fun hcurrent => ?_, checkSecurity_error_iff h current,
    fun hcurrent htarget => ?_, checkMigration_error_iff h current target⟩, fun current s hs => ?_⟩
  · obtain ⟨c, v, r, -, -, -, hsecurity⟩ := exists_checkSecurity h hkeys current hcurrent
    exact ⟨_, hsecurity⟩
  · obtain ⟨r, hr⟩ := (Table.mem_keys_iff h target).1 htarget
    exact ⟨_, checkMigration_of_mem h current target r hcurrent hr⟩
  · obtain ⟨c, v, r, hc, hv, hr, rfl⟩ := checkSecurity_eq_ok h hkeys current s hs
    have hcurrent := (Table.mem_keys_iff h current).2 ⟨c, hc⟩
    refine ⟨v, r, _, hv, hr, checkMigration_of_mem h current v r hcurrent hr,
      recommendations_eq_nil_iff _ _, recommendations_of_hasIssues _ _, fun hrank => ?_⟩
    have hbelow := rank_lt_latest_iff h hkeys hrank v hv
    refine ⟨?_, fun hissues older t hlt ht => ?_,
      checkSecurity_of_perm h hkeys hrank v hv current c r hc hr⟩
    · rw [hasIssues_securityOf, hbelow current hcurrent]
    · obtain ⟨o, w, q, ho, hw, hq, rfl⟩ := checkSecurity_eq_ok h hkeys older t ht
      obtain rfl : w = v := Except.ok.inj (hw.symm.trans hv)
      obtain rfl : q = r := Option.some.inj (hq.symm.trans hr)
      rw [hasIssues_securityOf] at hissues ⊢
      have hle := rank_le_latest h hkeys w hv current hcurrent
      have hmem := (Table.mem_keys_iff h older).2 ⟨o, ho⟩
      exact ⟨(hbelow older hmem).1 (hlt.trans_le hle), hissues.2⟩

theorem advice_follows_rank_equal_prefix :
    let fixed : Release := { version := "1.0.1", securityFixes := ["", "x"] }
    let h : History :=
      [("1.0", { version := "1.0" }), ("1.0.1", fixed), ("0.9", { version := "0.9" })]
    let s : Security := { version := "1.0", hasIssues := true, securityFixes := []
                          recommendations := ["Upgrade to version 1.0.1 for security improvements:",
                            "  - ", "  - x"] }
    (∀ k ∈ Table.keys h, Readable k) ∧ ((Table.keys h).map rank).Nodup ∧
      checkSecurity h (.text "1.0") = .ok s ∧ checkSecurity h.reverse (.text "1.0") = .ok s ∧
      (∀ t, checkSecurity h (.text "0.9") = .ok t → t.hasIssues) ∧
      checkSecurity h (.text "1") = .error (Problem.versionNotFound ["1"]).failure := by
  intro fixed h s
  have hkeys : ∀ k ∈ Table.keys h, Readable k := by decide +kernel
  have hrank : ((Table.keys h).map rank).Nodup := by decide +kernel
  have hs : checkSecurity h (.text "1.0") = .ok s := by decide +kernel
  obtain ⟨hthere, hadvice⟩ := advice_follows_rank h hkeys
  obtain ⟨-, hmissing, -, -⟩ := hthere "1" "1"
  obtain ⟨v, r, m, -, -, -, -, -, hranked⟩ := hadvice "1.0" s hs
  obtain ⟨-, hsmaller, hperm⟩ := hranked hrank
  exact ⟨hkeys, hrank, hs, hperm _ h.reverse_perm,
    fun t => hsmaller rfl "0.9" t (by decide +kernel), hmissing.2 (by decide)⟩

end DotPath.Release

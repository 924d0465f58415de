import DotPath.Proofs.Release.Advice
import DotPath.Release.Report

set_option autoImplicit false

/-!
Reports say all that they are about. Their entries are told from what stands around them, because an
entry follows a mark and the line after the last entry is empty; so no two reports that differ in an
entry are the same text, whatever the entries look like.
-/

namespace DotPath.Release

open Text

/-- A text without a line break. -/
def IsLine (s : String) : Prop := '\n' ∉ s.toList

instance (s : String) : Decidable (IsLine s) := inferInstanceAs (Decidable ('\n' ∉ s.toList))

theorem isLine_append (s t : String) : IsLine (s ++ t) ↔ IsLine s ∧ IsLine t := by
  simp [IsLine, not_or]

theorem lines_inj (ls ls' : List String) (hne : ls ≠ []) (hne' : ls' ≠ []) (h : ∀ s ∈ ls, IsLine s)
    (h' : ∀ s ∈ ls', IsLine s) (heq : lines ls = lines ls') : ls = ls' := by
  have hsplit := splitOn_intercalate '\n' ls hne h
  have hsplit' := splitOn_intercalate '\n' ls' hne' h'
  change (lines ls).toList.splitOn '\n' = _ at hsplit
  change (lines ls').toList.splitOn '\n' = _ at hsplit'
  rw [heq, hsplit'] at hsplit
  exact (List.map_injective_iff.2 fun s t => String.toList_inj.1) hsplit.symm

/-! ### Entries and sections -/

/-- Entries with a mark in front of each end where an empty line stands. -/
theorem marked_append_inj (mark : String) (hmark : mark ≠ "") (xs ys rest rest' : List String)
    (heq : xs.map (mark ++ ·) ++ "" :: rest = ys.map (mark ++ ·) ++ "" :: rest') :
    xs = ys ∧ rest = rest' := by
  have hne (s : String) : mark ++ s ≠ "" := by simp [hmark]
  induction xs generalizing ys with
  | nil =>
    cases ys with
    | nil => exact ⟨rfl, (List.cons.inj heq).2⟩
    | cons y ys => exact absurd (List.cons.inj heq).1.symm (hne y)
  | cons x xs ih =>
    cases ys with
    | nil => exact absurd (List.cons.inj heq).1 (hne x)
    | cons y ys =>
      obtain ⟨hhead, htail⟩ := List.cons.inj heq
      obtain ⟨rfl, hrest⟩ := ih ys htail
      exact ⟨by rw [(String.append_right_inj mark).1 hhead], hrest⟩

/-- A section is told from what follows it, which has another title. -/
theorem sectionOf_append_inj (title : String) (ls ls' rest rest' : List String)
    (hrest : rest.head? ≠ some title) (hrest' : rest'.head? ≠ some title)
    (heq : sectionOf title ls ++ rest = sectionOf title ls' ++ rest') :
    ls ++ "" :: rest = ls' ++ "" :: rest' := by
  cases ls with
  | nil =>
    cases ls' with
    | nil => exact congrArg ("" :: ·) heq
    | cons l ls' => exact absurd (congrArg List.head? heq) hrest
  | cons l ls =>
    cases ls' with
    | nil => exact absurd (congrArg List.head? heq).symm hrest'
    | cons l' ls' => simpa [sectionOf] using heq

theorem head?_sectionOf_append (title : String) (ls rest : List String) :
    (sectionOf title ls ++ rest).head? = if ls.isEmpty then rest.head? else some title := by
  cases ls <;> rfl

theorem migrationSteps_append_inj (r r' : Release) (rest rest' : List String)
    (heq : migrationSteps r ++ "" :: rest = migrationSteps r' ++ "" :: rest') :
    r.breakingChanges = r'.breakingChanges ∧ rest = rest' := by
  unfold migrationSteps at heq
  cases hr : r.breakingChanges with
  | nil =>
    cases hr' : r'.breakingChanges with
    | nil => simpa [hr, hr'] using heq
    | cons c cs => simp [hr, hr'] at heq
  | cons c cs =>
    cases hr' : r'.breakingChanges with
    | nil => simp [hr, hr'] at heq
    | cons c' cs' =>
      rw [hr, hr'] at heq
      simp only [List.isEmpty_cons, Bool.false_eq_true, if_false, List.cons_append,
        List.append_assoc] at heq
      obtain ⟨hchanges, hrest⟩ := marked_append_inj "- " (by decide) _ _ _ _ (List.cons.inj heq).2
      have htail := List.append_cancel_left (List.cons.inj hrest).2
      exact ⟨hchanges, (List.cons.inj htail).2⟩

/-! ### Whole reports -/

theorem reportLines_migrationTo (current target : String) (r : Release) :
    (migrationTo current (target, r)).reportLines =
      heading "PATHMAP MIGRATION STATUS REPORT" ++
        ["Current Version: " ++ current, "Target Version:  " ++ target,
          "Compatibility:   " ++ upperCase (migrationTo current (target, r)).compatibility.name,
          ""] ++
        (sectionOf "⚠️  BREAKING CHANGES DETECTED" (migrationSteps r) ++
          (sectionOf "🔒 SECURITY IMPROVEMENTS" (r.securityFixes.map ("✓ " ++ ·)) ++
            [rule '='])) := by
  have hsteps : (if (migrationTo current (target, r)).hasBreakingChanges then
      sectionOf "⚠️  BREAKING CHANGES DETECTED" (migrationTo current (target, r)).steps else []) =
      sectionOf "⚠️  BREAKING CHANGES DETECTED" (migrationSteps r) := by
    cases hr : r.breakingChanges <;> simp [migrationTo, migrationSteps, hr, sectionOf]
  rw [Migration.reportLines, hsteps]
  simp only [List.append_assoc]
  rfl

theorem reportLines_migrationTo_inj (current target current' target' : String) (r r' : Release)
    (heq : (migrationTo current (target, r)).reportLines =
      (migrationTo current' (target', r')).reportLines) :
    current = current' ∧ target = target' ∧ r.breakingChanges = r'.breakingChanges ∧
      r.securityFixes = r'.securityFixes := by
  have hrule (title : String) (h : rule '=' ≠ title) : [rule '='].head? ≠ some title := by
    simpa using h
  have hlast (fixes : List String) :
      (sectionOf "🔒 SECURITY IMPROVEMENTS" fixes ++ [rule '=']).head? ≠
        some "⚠️  BREAKING CHANGES DETECTED" := by
    rw [head?_sectionOf_append]
    split
    · exact hrule _ (by decide +kernel)
    · decide
  rw [reportLines_migrationTo, reportLines_migrationTo] at heq
  obtain ⟨htop, hsections⟩ := List.append_inj heq rfl
  have hversions := List.append_cancel_left htop
  simp only [List.cons.injEq, String.append_right_inj] at hversions
  have hchanges := sectionOf_append_inj _ _ _ _ _ (hlast _) (hlast _) hsections
  obtain ⟨hbreaking, hrest⟩ := migrationSteps_append_inj r r' _ _ hchanges
  have hend := hrule "🔒 SECURITY IMPROVEMENTS" (by decide +kernel)
  have hfixes := sectionOf_append_inj _ _ _ _ _ hend hend hrest
  exact ⟨hversions.1, hversions.2.1, hbreaking,
    (marked_append_inj "✓ " (by decide) _ _ _ _ hfixes).1⟩

/-- What a report on security says of the issues of a version. -/
def Security.verdict (s : Security) : List String :=
  if s.hasIssues then sectionOf "⚠️  SECURITY RECOMMENDATIONS" s.recommendations
  else ["✅ No known security issues in current version", ""]

theorem Security.reportLines_eq (s : Security) :
    s.reportLines =
      heading "PATHMAP SECURITY STATUS REPORT" ++ ["Version: " ++ s.version, ""] ++
        (sectionOf "🔒 SECURITY FIXES IN THIS VERSION" (s.securityFixes.map ("✓ " ++ ·)) ++
          (s.verdict ++ [rule '='])) := by
  rw [Security.reportLines]
  simp only [List.append_assoc]
  rfl

/-- Recommendations are made just for a version that has issues. -/
def Security.Settled (s : Security) : Prop := s.recommendations = [] ↔ s.hasIssues = false

theorem Security.head?_verdict (s : Security) (hs : s.Settled) :
    s.verdict.head? = some (if s.hasIssues then "⚠️  SECURITY RECOMMENDATIONS"
      else "✅ No known security issues in current version") := by
  unfold verdict
  cases hissues : s.hasIssues with
  | false => rfl
  | true =>
    cases hrecommendations : s.recommendations with
    | nil => simp [hs.1 hrecommendations] at hissues
    | cons l ls => rfl

theorem Security.verdict_inj (s s' : Security) (hs : s.Settled) (hs' : s'.Settled)
    (heq : s.verdict = s'.verdict) :
    s.hasIssues = s'.hasIssues ∧ s.recommendations = s'.recommendations := by
  have hhead := congrArg List.head? heq
  rw [s.head?_verdict hs, s'.head?_verdict hs'] at hhead
  cases hissues : s.hasIssues with
  | false =>
    cases hissues' : s'.hasIssues with
    | false => exact ⟨rfl, by rw [hs.2 hissues, hs'.2 hissues']⟩
    | true => simp [hissues, hissues'] at hhead
  | true =>
    cases hissues' : s'.hasIssues with
    | false => simp [hissues, hissues'] at hhead
    | true =>
      rw [verdict, verdict, hissues, hissues', if_pos rfl, if_pos rfl] at heq
      have hlines := sectionOf_append_inj _ _ _ [] [] nofun nofun (by simpa using heq)
      exact ⟨rfl, List.append_cancel_right hlines⟩

theorem Security.reportLines_inj (s s' : Security) (hs : s.Settled) (hs' : s'.Settled)
    (heq : s.reportLines = s'.reportLines) : s = s' := by
  have hnext (t : Security) (ht : t.Settled) :
      (t.verdict ++ [rule '=']).head? ≠ some "🔒 SECURITY FIXES IN THIS VERSION" := by
    rw [List.head?_append, t.head?_verdict ht]
    cases t.hasIssues <;> simp
  rw [reportLines_eq, reportLines_eq] at heq
  obtain ⟨htop, hsections⟩ := List.append_inj heq rfl
  have hversion := List.append_cancel_left htop
  simp only [List.cons.injEq, String.append_right_inj] at hversion
  have hlines := sectionOf_append_inj _ _ _ _ _ (hnext s hs) (hnext s' hs') hsections
  obtain ⟨hfixes, hrest⟩ := marked_append_inj "✓ " (by decide) _ _ _ _ hlines
  obtain ⟨hissues, hrecommendations⟩ := s.verdict_inj s' hs hs' (List.append_cancel_right hrest)
  cases s
  cases s'
  simp_all

/-! ### Texts of reports -/

theorem isLine_rule (c : Char) (h : c ≠ '\n') : IsLine (rule c) := by
  rw [IsLine, rule, String.toList_ofList, List.mem_replicate]
  exact fun hmem => h hmem.2.symm

theorem isLine_sectionOf (title : String) (ls : List String) (htitle : IsLine title)
    (h : ∀ s ∈ ls, IsLine s) : ∀ s ∈ sectionOf title ls, IsLine s := by
  have hrule := isLine_rule '-' (by decide)
  cases ls with
  | nil => simp [sectionOf]
  | cons l ls =>
    rw [sectionOf, List.isEmpty_cons, if_neg Bool.false_ne_true, List.forall_mem_append]
    exact ⟨List.forall_mem_cons.2 ⟨htitle, List.forall_mem_cons.2 ⟨hrule, h⟩⟩, by decide⟩

theorem isLine_heading (title : String) (htitle : IsLine title) :
    ∀ s ∈ heading title, IsLine s := by
  have hrule := isLine_rule '=' (by decide)
  simp [heading, hrule, htitle]

theorem isLine_map_append (mark : String) (ls : List String) (hmark : IsLine mark)
    (h : ∀ s ∈ ls, IsLine s) : ∀ s ∈ ls.map (mark ++ ·), IsLine s :=
  List.forall_mem_map.2 fun s hs => (isLine_append mark s).2 ⟨hmark, h s hs⟩

theorem isLine_migrationSteps (r : Release) (h : ∀ s ∈ r.breakingChanges, IsLine s) :
    ∀ s ∈ migrationSteps r, IsLine s := by
  have hitems : ∀ s ∈ "" :: "Action items:" :: actionItems, IsLine s := by decide +kernel
  unfold migrationSteps
  split
  · simp
  · rw [List.cons_append, List.forall_mem_cons, List.forall_mem_append]
    exact ⟨by decide, isLine_map_append "- " _ (by decide) h, hitems⟩

theorem isLine_reportLines_migrationTo (current target : String) (r : Release)
    (hcurrent : IsLine current) (htarget : IsLine target)
    (hchanges : ∀ s ∈ r.breakingChanges, IsLine s) (hfixes : ∀ s ∈ r.securityFixes, IsLine s) :
    ∀ s ∈ (migrationTo current (target, r)).reportLines, IsLine s := by
  have hcompatibility (c : Compatibility) : IsLine (upperCase c.name) := by
    cases c <;> decide +kernel
  have hrule := isLine_rule '=' (by decide)
  rw [reportLines_migrationTo]
  simp only [List.forall_mem_append, List.forall_mem_cons, isLine_append]
  exact ⟨⟨isLine_heading _ (by decide +kernel), ⟨by decide, hcurrent⟩, ⟨by decide, htarget⟩,
    ⟨by decide, hcompatibility _⟩, by decide, by simp⟩,
    isLine_sectionOf _ _ (by decide) (isLine_migrationSteps r hchanges),
    isLine_sectionOf _ _ (by decide) (isLine_map_append "✓ " _ (by decide) hfixes), hrule, by simp⟩

theorem Security.isLine_reportLines (s : Security) (hversion : IsLine s.version)
    (hfixes : ∀ x ∈ s.securityFixes, IsLine x) (hadvice : ∀ x ∈ s.recommendations, IsLine x) :
    ∀ x ∈ s.reportLines, IsLine x := by
  have hrule := isLine_rule '=' (by decide)
  have hverdict : ∀ x ∈ s.verdict, IsLine x := by
    unfold verdict
    split
    · exact isLine_sectionOf _ _ (by decide) hadvice
    · decide +kernel
  rw [reportLines_eq]
  simp only [List.forall_mem_append, List.forall_mem_cons, isLine_append]
  exact ⟨⟨isLine_heading _ (by decide +kernel), ⟨by decide, hversion⟩, by decide, by simp⟩,
    isLine_sectionOf _ _ (by decide) (isLine_map_append "✓ " _ (by decide) hfixes), hverdict, hrule,
    by simp⟩

theorem migrationReport_eq_ok (h : History) (current target text : String) (r : Release)
    (hr : Table.get? h target = some r)
    (htext : migrationReport h (.text current) (.text target) = .ok text) :
    lines (migrationTo current (target, r)).reportLines = text := by
  obtain ⟨m, hm, rfl⟩ := (map_eq_ok_iff _ _ _).1 htext
  rw [checkMigration_text, hr] at hm
  cases hcurrent : Table.get? h current with
  | none =>
    rw [hcurrent] at hm
    cases hm
  | some c =>
    rw [hcurrent] at hm
    cases hm
    rfl

/-- Two histories whose reports are the same text agree in all that the reports are about, also
where entries look like other parts of a report. -/
theorem reports_lose_nothing (h h' : History) :
    (∀ (current current' target target' text : String) (r r' : Release),
      Table.get? h target = some r → Table.get? h' target' = some r' →
      (∀ s ∈ current :: target :: r.breakingChanges ++ r.securityFixes, IsLine s) →
      (∀ s ∈ current' :: target' :: r'.breakingChanges ++ r'.securityFixes, IsLine s) →
      migrationReport h (.text current) (.text target) = .ok text →
      migrationReport h' (.text current') (.text target') = .ok text →
      current = current' ∧ target = target' ∧ r.breakingChanges = r'.breakingChanges ∧
        r.securityFixes = r'.securityFixes) ∧
    ∀ (current current' text : String) (s s' : Security),
      checkSecurity h (.text current) = .ok s → checkSecurity h' (.text current') = .ok s' →
      (∀ x ∈ s.version :: s.securityFixes ++ s.recommendations, IsLine x) →
      (∀ x ∈ s'.version :: s'.securityFixes ++ s'.recommendations, IsLine x) →
      securityReport h (.text current) = .ok text →
      securityReport h' (.text current') = .ok text → current = current' ∧ s = s' := by
  constructor
  · intro current current' target target' text r r' hr hr' hlines hlines' htext htext'
    have hreport := migrationReport_eq_ok h current target text r hr htext
    have hreport' := migrationReport_eq_ok h' current' target' text r' hr' htext'
    simp only [List.cons_append, List.forall_mem_cons, List.forall_mem_append] at hlines hlines'
    obtain ⟨hcurrent, htarget, hchanges, hfixes⟩ := hlines
    obtain ⟨hcurrent', htarget', hchanges', hfixes'⟩ := hlines'
    refine reportLines_migrationTo_inj current target current' target' r r'
      (lines_inj _ _ ?_ ?_ ?_ ?_ (hreport.trans hreport'.symm))
    · simp [Migration.reportLines, heading]
    · simp [Migration.reportLines, heading]
    · exact isLine_reportLines_migrationTo current target r hcurrent htarget hchanges hfixes
    · exact isLine_reportLines_migrationTo current' target' r' hcurrent' htarget' hchanges' hfixes'
  · intro current current' text s s' hs hs' hlines hlines' htext htext'
    obtain ⟨c, l, -, -, hsecurity⟩ := exists_securityOf h current s hs
    obtain ⟨c', l', -, -, hsecurity'⟩ := exists_securityOf h' current' s' hs'
    simp only [List.cons_append, List.forall_mem_cons, List.forall_mem_append] at hlines hlines'
    obtain ⟨hversion, hfixes, hadvice⟩ := hlines
    obtain ⟨hversion', hfixes', hadvice'⟩ := hlines'
    have hsettled : s.Settled := hsecurity ▸ recommendations_eq_nil_iff _ _
    have hsettled' : s'.Settled := hsecurity' ▸ recommendations_eq_nil_iff _ _
    rw [securityReport, hs] at htext
    rw [securityReport, hs'] at htext'
    have hreport : lines s.reportLines = lines s'.reportLines :=
      Except.ok.inj (htext.trans htext'.symm)
    have heq : s = s' := s.reportLines_inj s' hsettled hsettled'
      (lines_inj _ _ (by simp [Security.reportLines, heading])
        (by simp [Security.reportLines, heading])
        (s.isLine_reportLines hversion hfixes hadvice)
        (s'.isLine_reportLines hversion' hfixes' hadvice') hreport)
    have hcurrent : s.version = current := by rw [hsecurity, securityOf]
    have hcurrent' : s'.version = current' := by rw [hsecurity', securityOf]
    exact ⟨by rw [← hcurrent, ← hcurrent', heq], heq⟩

theorem reports_lose_nothing_imitations :
    let old : Release :=
      { version := "0", securityFixes := ["✅ No known security issues in current version", ""] }
    let new : Release :=
      { version := "1", breakingChanges := ["", "- ", "Action items:"],
        securityFixes := ["", "🔒 SECURITY IMPROVEMENTS", "✓ "] }
    let new' : Release := { new with deprecated := ["x"] }
    let h : History := [("0", old), ("1", new)]
    let h' : History := [("1", new'), ("0", old)]
    let move := (migrationTo "0" ("1", new)).report
    let s := securityOf ("0", old) ("1", new)
    Table.get? h "1" = some new ∧ Table.get? h' "1" = some new' ∧
      migrationReport h (.text "0") (.text "1") = .ok move ∧
      migrationReport h' (.text "0") (.text "1") = .ok move ∧
      new.breakingChanges = new'.breakingChanges ∧ new.securityFixes = new'.securityFixes ∧
      securityReport h (.text "0") = .ok s.report ∧ securityReport h' (.text "0") = .ok s.report ∧
      ∀ s', checkSecurity h' (.text "0") = .ok s' →
        (∀ x ∈ s'.version :: s'.securityFixes ++ s'.recommendations, IsLine x) → s = s' := by
  intro old new new' h h' move s
  obtain ⟨hmove, hsecurity⟩ := reports_lose_nothing h h'
  have hs : checkSecurity h (.text "0") = .ok s := by decide +kernel
  have hs' : checkSecurity h' (.text "0") = .ok s := by decide +kernel
  have htext : securityReport h (.text "0") = .ok s.report := by rw [securityReport, hs]; rfl
  have htext' : securityReport h' (.text "0") = .ok s.report := by rw [securityReport, hs']; rfl
  obtain ⟨-, -, hchanges, hfixes⟩ := hmove "0" "0" "1" "1" move new new' rfl rfl
    (by decide +kernel) (by decide +kernel) rfl rfl
  exact ⟨rfl, rfl, rfl, rfl, hchanges, hfixes, htext, htext', fun s' hs' hlines =>
    (hsecurity "0" "0" s.report s s' hs hs' (by decide +kernel) hlines htext htext').2⟩

end DotPath.Release

import DotPath.Proofs.CommandLine.Run
import DotPath.Proofs.Release.Versions
import DotPath.Proofs.Store.Breaks

set_option autoImplicit false

/-!
When a run ends without an answer. It finishes, or fails with a problem that it tells, but for a
list of causes that break it: files that cannot be read, settings that are no texts where these are
asked for, and indices, numbers and values that are too much.
-/

namespace DotPath

open Text

namespace Folder

theorem pathOf_error_iff (v : Value) : (∃ c, pathOf v = .error c) ↔ v.plainText? = none := by
  unfold pathOf
  cases hv : v.plainText? with
  | some s => simp
  | none => split <;> simp_all

theorem pathOf_eq_ok_iff (v : Value) (path : FilePath) :
    pathOf v = .ok path ↔ ∃ s, v.plainText? = some s ∧ path = .ofText s := by
  unfold pathOf
  cases hv : v.plainText? with
  | some s => simp [eq_comm]
  | none => split <;> simp_all

theorem extensionOf_error_iff (v : Value) :
    (∃ c, extensionOf v = .error c) ↔ v.plainText? = none := by
  unfold extensionOf
  cases hv : v.plainText? with
  | some s => simp
  | none => split <;> simp_all

theorem crashes_ofValues_iff (base extension : Value) :
    Crashes (ofValues base extension) ↔
      base.plainText? = none ∨ extension.plainText? = none := by
  rw [← pathOf_error_iff base, ← extensionOf_error_iff extension]
  unfold ofValues
  cases pathOf base with
  | error c => exact iff_of_true ⟨c, rfl⟩ (.inl ⟨c, rfl⟩)
  | ok path =>
    cases extensionOf extension with
    | error c => exact iff_of_true ⟨c, rfl⟩ (.inr ⟨c, rfl⟩)
    | ok e => exact iff_of_false (not_crashes_ok _) (by simp)

end Folder

theorem Path.crashes_resolve_iff (top : Value.Entries) (path : String) :
    Crashes (Path.resolve top path) ↔ ∃ n, Path.LongIndex path n := by
  constructor
  · rintro ⟨c, hc⟩
    obtain ⟨v, hv⟩ | ⟨p, hp, -⟩ | ⟨n, hn, -⟩ := Path.resolve_cases top path
    · rw [hv] at hc
      cases hc
    · rw [hp] at hc
      cases hc
    · exact ⟨n, hn⟩
  · rintro ⟨n, hn⟩
    exact ⟨_, Path.resolve_of_longIndex top path n hn⟩

theorem Store.crashes_resolve_iff (s : Store) (path : Value) :
    Crashes (s.resolve path) ↔ ∃ p n, path.plainText? = some p ∧ Path.LongIndex p n := by
  unfold Store.resolve Path.resolveAny
  cases hpath : path.plainText? with
  | none => simp
  | some p => simp [Path.crashes_resolve_iff]

namespace CommandLine

/-- The level of a name. -/
def levelNamed (name : String) : Except Failure LogLevel :=
  match LogLevel.ofName? name with
  | some level => .ok level
  | none =>
    .error (Problem.configInvalid s!"Unknown logging level in configuration: {name}").failure

theorem not_crashes_levelNamed (name : String) : ¬ Crashes (levelNamed name) := by
  unfold levelNamed
  cases LogLevel.ofName? name with
  | some level => exact not_crashes_ok level
  | none => exact not_crashes_problem _ _

theorem crashes_folder_iff (s : Settings) :
    Crashes (folder s) ↔ ∃ base extension,
      s.get (.text "content.base_path") (.text ".") = .ok base ∧
      s.get (.text "content.file_extension") (.text "json") = .ok extension ∧
      (base.plainText? = none ∨ extension.plainText? = none) := by
  obtain ⟨base, hbase⟩ : ∃ v, s.get (.text "content.base_path") (.text ".") = .ok v :=
    s.exists_get "content" "base_path" _ rfl rfl
  obtain ⟨extension, hextension⟩ :
      ∃ v, s.get (.text "content.file_extension") (.text "json") = .ok v :=
    s.exists_get "content" "file_extension" _ rfl rfl
  have hfolder : folder s = Folder.ofValues base extension := by
    rw [folder, hbase, hextension]
    rfl
  rw [hfolder, Folder.crashes_ofValues_iff]
  constructor
  · exact fun h => ⟨base, extension, hbase, hextension, h⟩
  · rintro ⟨b, e, hb, he, h⟩
    obtain rfl := Except.ok.inj (hbase.symm.trans hb)
    obtain rfl := Except.ok.inj (hextension.symm.trans he)
    exact h

section

variable [Host]

section Settings

variable (files : Files) (r : Request) (s : Settings)

theorem crashes_loadSettings_iff :
    Crashes (loadSettings files r).result ↔
      ∃ path, given? r.config = some path ∧ Settings.Breaks files (.ofText path) := by
  unfold loadSettings
  cases given? r.config with
  | some path => simp [Settings.crashes_load_iff]
  | none => exact iff_of_false (not_crashes_ok _) (by simp)

/-- The setting of the level that log messages must have. -/
def levelSetting : Except Failure Value :=
  s.get (.text "logging.level") (.text LogLevel.warning.name)

theorem levelFor_of_given (name : String) (h : given? r.logLevel = some name) :
    levelFor r s = levelNamed name := by
  rw [levelFor, h]
  rfl

theorem levelFor_of_none (h : given? r.logLevel = none) :
    levelFor r s = levelSetting s >>= fun v => upperText v >>= levelNamed := by
  rw [levelFor, h]
  rfl

theorem crashes_levelFor_iff :
    Crashes (levelFor r s) ↔
      given? r.logLevel = none ∧ ∃ v c, levelSetting s = .ok v ∧ v.told = .error c := by
  obtain ⟨v, hv⟩ : ∃ v, levelSetting s = .ok v := s.exists_get "logging" "level" _ rfl rfl
  cases hgiven : given? r.logLevel with
  | some name =>
    rw [levelFor_of_given r s name hgiven]
    exact iff_of_false (not_crashes_levelNamed name) (by simp)
  | none =>
    rw [levelFor_of_none r s hgiven, hv]
    change Crashes (upperText v >>= levelNamed) ↔ _
    unfold upperText
    cases htold : v.told with
    | error c => exact iff_of_true ⟨c, rfl⟩ ⟨rfl, v, c, rfl, htold⟩
    | ok text =>
      refine iff_of_false (not_crashes_levelNamed _) ?_
      rintro ⟨-, w, c, hw, h⟩
      obtain rfl := Except.ok.inj hw
      rw [htold] at h
      cases h

end Settings

/-- What breaks a run that looks for a document: its source or the folder of documents is no text,
or the document itself does. -/
inductive SourceBreaks (files : Files) (s : Settings) (source : Value) : Prop where
  | noText (h : source.plainText? = none)
  | file (p : String) (hp : source.plainText? = some p) (hthere : files (.ofText p) ≠ .absent)
    (h : Store.Breaks files (.ofText p))
  | folder (p : String) (base extension : Value) (hp : source.plainText? = some p)
    (habsent : files (.ofText p) = .absent)
    (hbase : s.get (.text "content.base_path") (.text ".") = .ok base)
    (hextension : s.get (.text "content.file_extension") (.text "json") = .ok extension)
    (h : base.plainText? = none ∨ extension.plainText? = none)
  | document (p : String) (f : Folder) (hp : source.plainText? = some p)
    (habsent : files (.ofText p) = .absent) (hf : CommandLine.folder s = .ok f)
    (h : Store.Breaks files (f.locate source.display))

theorem crashes_loadSource_iff (files : Files) (s : Settings) (source : Value) :
    Crashes (loadSource files s source).result ↔ SourceBreaks files s source := by
  rw [result_loadSource, crashes_bind_iff, crashes_mapError_iff, Folder.pathOf_error_iff]
  simp only [mapError_eq_ok_iff, Folder.pathOf_eq_ok_iff]
  constructor
  · rintro (hnone | ⟨path, ⟨p, hp, rfl⟩, h⟩)
    · exact .noText hnone
    · cases hfile : files (.ofText p) with
      | file octets =>
        rw [hfile] at h
        exact .file p hp (by simp [hfile]) ((Store.crashes_load_iff _ _).1 h)
      | refused message => exact .file p hp (by simp [hfile]) (.file (.inl ⟨message, hfile⟩))
      | absent =>
        rw [hfile] at h
        obtain h | ⟨f, hf, h⟩ := (crashes_bind_iff _ _).1 h
        · obtain ⟨base, extension, hbase, hextension, h⟩ := (crashes_folder_iff s).1 h
          exact .folder p base extension hp hfile hbase hextension h
        · exact .document p f hp hfile hf ((Store.crashes_load_iff _ _).1 h)
  · rintro (h | ⟨p, hp, hthere, h⟩ | ⟨p, base, extension, hp, habsent, hbase, hextension, h⟩ |
      ⟨p, f, hp, habsent, hf, h⟩)
    · exact .inl h
    · refine .inr ⟨_, ⟨p, hp, rfl⟩, ?_⟩
      cases hfile : files (.ofText p) with
      | file octets => exact (Store.crashes_load_iff _ _).2 h
      | refused message => exact ⟨_, rfl⟩
      | absent => exact absurd hfile hthere
    · refine .inr ⟨_, ⟨p, hp, rfl⟩, ?_⟩
      rw [habsent]
      exact (crashes_bind_iff _ _).2
        (.inl ((crashes_folder_iff s).2 ⟨base, extension, hbase, hextension, h⟩))
    · refine .inr ⟨_, ⟨p, hp, rfl⟩, ?_⟩
      rw [habsent]
      exact (crashes_bind_iff _ _).2 (.inr ⟨f, hf, (Store.crashes_load_iff _ _).2 h⟩)

/-- What breaks the printing of a value: it cannot be written as JSON, or what is written cannot be
printed. -/
inductive LineBreaks (v : Value) : Prop where
  | refused (c : Crash) (h : Json.refusal? v = some c)
  | half (hwritten : Json.refusal? v = none) (n : Nat) (h : .half n ∈ Json.write v)

theorem crashes_jsonLine_iff (v : Value) : Crashes (jsonLine v) ↔ LineBreaks v := by
  unfold jsonLine
  cases hrefusal : Json.refusal? v with
  | some c => exact iff_of_true ⟨c, rfl⟩ (.refused c hrefusal)
  | none =>
    have hhalf := proper_fails_iff (Json.write v)
    dsimp only
    cases hproper : proper (Json.write v) with
    | error fault =>
      obtain ⟨n, hn⟩ := hhalf.1 ⟨fault, hproper⟩
      exact iff_of_true ⟨_, rfl⟩ (.half hrefusal n hn)
    | ok cs =>
      refine iff_of_false (not_crashes_ok _) ?_
      rintro (⟨c, h⟩ | ⟨-, n, h⟩)
      · rw [hrefusal] at h
        cases h
      · obtain ⟨fault, hfault⟩ := hhalf.2 ⟨n, h⟩
        rw [hproper] at hfault
        cases hfault

/-- What breaks a command under some settings, `current` being the version to report on. Settings
may be values of any kind, but only texts can be versions and paths. -/
inductive AnswerBreaks (files : Files) (r : Request) (s : Settings) (current : Value) : Prop where
  | security (hcommand : r.command = some .security) (h : current.plainText? = none)
  | check (target : Value) (hcommand : r.command = some (.check target))
    (h : current.plainText? = none ∨ target.plainText? = none)
  | source (source path : Value) (hcommand : r.command = some (.get source path))
    (h : SourceBreaks files s source)
  | path (source path : Value) (store : Store) (p : String) (n : Nat)
    (hcommand : r.command = some (.get source path))
    (hstore : (loadSource files s source).result = .ok store) (hp : path.plainText? = some p)
    (h : Path.LongIndex p n)
  | output (source path : Value) (store : Store) (v : Value)
    (hcommand : r.command = some (.get source path))
    (hstore : (loadSource files s source).result = .ok store) (hv : store.resolve path = .ok v)
    (h : LineBreaks v)

/-- What breaks a run: the file of settings, the level in them, or the command. -/
inductive Breaks (files : Files) (r : Request) : Prop where
  | settings (path : String) (hpath : given? r.config = some path)
    (h : Settings.Breaks files (.ofText path))
  | level (s : Settings) (v : Value) (c : Crash) (hs : (loadSettings files r).result = .ok s)
    (hgiven : given? r.logLevel = none) (hv : levelSetting s = .ok v) (h : v.told = .error c)
  | answer (s : Settings) (level : LogLevel) (current : Value)
    (hs : (loadSettings files r).result = .ok s) (hlevel : levelFor r s = .ok level)
    (hcurrent : versionFor r s = .ok current) (h : AnswerBreaks files r s current)

section Request

variable (files : Files) (r : Request) (s : Settings)

theorem crashes_answered_iff (current : Value) :
    Crashes (answered files r s current) ↔ AnswerBreaks files r s current := by
  constructor
  · intro h
    unfold answered at h
    split at h
    next hcommand =>
      rw [crashes_map_iff, Release.crashes_checkSecurity_iff] at h
      exact .security hcommand h
    next target hcommand =>
      rw [crashes_map_iff, Release.crashes_checkMigration_iff] at h
      exact .check target hcommand h
    next source path hcommand =>
      obtain h | ⟨store, hstore, h⟩ := (crashes_bind_iff _ _).1 h
      · exact .source source path hcommand ((crashes_loadSource_iff files s source).1 h)
      obtain h | ⟨v, hv, h⟩ := (crashes_bind_iff _ _).1 h
      · obtain ⟨p, n, hp, h⟩ := (Store.crashes_resolve_iff store path).1 h
        exact .path source path store p n hcommand hstore hp h
      · exact .output source path store v hcommand hstore hv ((crashes_jsonLine_iff v).1 h)
    next => exact absurd h (not_crashes_ok _)
  · intro h
    unfold answered
    cases h with
    | security hcommand h =>
      rw [hcommand]
      exact (crashes_map_iff _ _).2 ((Release.crashes_checkSecurity_iff current).2 h)
    | check target hcommand h =>
      rw [hcommand]
      exact (crashes_map_iff _ _).2 ((Release.crashes_checkMigration_iff _ current target).2 h)
    | source source path hcommand h =>
      rw [hcommand]
      exact (crashes_bind_iff _ _).2 (.inl ((crashes_loadSource_iff files s source).2 h))
    | path source path store p n hcommand hstore hp h =>
      rw [hcommand]
      have hresolve := (Store.crashes_resolve_iff store path).2 ⟨p, n, hp, h⟩
      exact (crashes_bind_iff _ _).2
        (.inr ⟨store, hstore, (crashes_bind_iff _ _).2 (.inl hresolve)⟩)
    | output source path store v hcommand hstore hv h =>
      rw [hcommand]
      have hline := (crashes_jsonLine_iff v).2 h
      exact (crashes_bind_iff _ _).2
        (.inr ⟨store, hstore, (crashes_bind_iff _ _).2 (.inr ⟨v, hv, hline⟩)⟩)

theorem crashes_answer_iff :
    Crashes (answer files r s).result ↔
      ∃ current, versionFor r s = .ok current ∧ AnswerBreaks files r s current := by
  -- The settings always tell a version, so that only the command can break.
  obtain ⟨current, hcurrent⟩ := exists_versionFor r s
  rw [result_answer, hcurrent]
  change Crashes (answered files r s current) ↔ _
  rw [crashes_answered_iff]
  constructor
  · exact fun h => ⟨current, rfl, h⟩
  · rintro ⟨version, hversion, h⟩
    obtain rfl := Except.ok.inj hversion
    exact h

theorem crashes_result_iff : Crashes (r.result files) ↔ Breaks files r := by
  unfold Request.result
  simp only [crashes_bind_iff, crashes_loadSettings_iff, crashes_levelFor_iff, crashes_answer_iff]
  constructor
  · rintro (⟨path, hpath, h⟩ |
      ⟨s, hs, ⟨hgiven, v, c, hv, h⟩ | ⟨level, hlevel, current, hcurrent, h⟩⟩)
    · exact .settings path hpath h
    · exact .level s v c hs hgiven hv h
    · exact .answer s level current hs hlevel hcurrent h
  · intro h
    cases h with
    | settings path hpath h => exact .inl ⟨path, hpath, h⟩
    | level s v c hs hgiven hv h => exact .inr ⟨s, hs, .inl ⟨hgiven, v, c, hv, h⟩⟩
    | answer s level current hs hlevel hcurrent h =>
      exact .inr ⟨s, hs, .inr ⟨level, hlevel, current, hcurrent, h⟩⟩

end Request

/-- A request is answered, or refused with a problem that is told, but for the causes that break the
run. -/
theorem run_answers_or_breaks (files : Files) (args : List String) (r : Request)
    (h : Request.read args = .ok r) :
    (((run files args).ending.status? = some 0 ∧ (run files args).stderr = "") ∨
      (∃ p : Problem, (run files args).ending.status? = some 1 ∧ (run files args).stdout = "" ∧
        (run files args).stderr = "error: [" ++ p.code ++ "] " ++ p.message ++ "\n") ∨
      (run files args).ending.status? = none) ∧
    ((run files args).ending.status? = none ↔ Breaks files r) := by
  have hseen := seen_run files args r h
  rw [← crashes_result_iff]
  cases hresult : r.result files with
  | ok out =>
    simp only [hresult, Outcome.seen, seen, Prod.mk.injEq] at hseen
    obtain ⟨hending, -, hstderr⟩ := hseen
    rw [hending, hstderr]
    exact ⟨.inl ⟨rfl, rfl⟩, iff_of_false (by simp [Ending.status?]) (not_crashes_ok _)⟩
  | error f =>
    cases f with
    | problem p cause =>
      simp only [hresult, Outcome.seen, seen, Prod.mk.injEq] at hseen
      obtain ⟨hending, hstdout, hstderr⟩ := hseen
      rw [hending, hstdout, hstderr]
      refine ⟨.inr (.inl ⟨p, rfl, rfl, ?_⟩),
        iff_of_false (by simp [Ending.status?]) (not_crashes_problem p cause)⟩
      change "error: " ++ ("[" ++ p.code ++ "] " ++ p.message) ++ "\n" = _
      rw [show "error: [" = "error: " ++ "[" from rfl]
      simp only [String.append_assoc]
    | crash c =>
      simp only [hresult, Outcome.seen, seen, Prod.mk.injEq] at hseen
      rw [hseen.1]
      exact ⟨.inr (.inr rfl), iff_of_true rfl ⟨c, rfl⟩⟩

end

/-- A version that the settings have as a number is in no history, and breaks the run. -/
theorem run_answers_or_breaks_number_version :
    let files : Files := fun path =>
      if path = .ofText "c.yaml" then
        .file (Utf8.encode "migration:\n  current_version: 1.5\n".toList)
      else .absent
    let args := ["--config", "c.yaml", "check", "0.0.4"]
    let r : Request := ⟨some "c.yaml", none, none, some (.check (.text "0.0.4"))⟩
    Request.read args = .ok r ∧ (run files args).ending.status? = none ∧ Breaks files r := by
  intro files args r
  have hread : Request.read args = .ok r := rfl
  have hcrashed : (run files args).ending.status? = none := by decide +kernel
  exact ⟨hread, hcrashed, (run_answers_or_breaks files args r hread).2.1 hcrashed⟩

/-- The problem of a version that is not found tells it as a text, and a number is none. -/
theorem run_crashes_number_version :
    let files : Files := fun path =>
      if path = .ofText "c.yaml" then
        .file (Utf8.encode "migration:\n  current_version: 1.5\n".toList)
      else .absent
    let args := ["--config", "c.yaml", "security"]
    Request.read args = .ok ⟨some "c.yaml", none, none, some .security⟩ ∧
      run files args =
        ⟨.crashed (.wrongType "sequence item 0: expected str instance, float found"), "", "", []⟩ :=
  ⟨rfl, by decide +kernel⟩

end CommandLine

end DotPath

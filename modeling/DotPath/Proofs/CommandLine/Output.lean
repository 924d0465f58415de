import DotPath.Proofs.CommandLine.Escape

set_option autoImplicit false

/-!
What a run lets be seen. It prints a whole answer or the line of one problem, and never both. The
settings and the level of messages are settled before the command is looked at, so that what is
wrong with them is told in the same way for every command.
-/

namespace DotPath.CommandLine

open Text

theorem seen_problem (p : Problem) (cause : Option Cause) :
    seen (.error (.problem p cause)) =
      (.failed p cause, "", "error: [" ++ p.code ++ "] " ++ p.message ++ "\n") := by
  change (_, _, "error: " ++ ("[" ++ p.code ++ "] " ++ p.message) ++ "\n") = _
  rw [show "error: [" = "error: " ++ "[" from rfl]
  simp only [String.append_assoc]

section

variable [Host]

/-- What the settings come to with the level that they or the arguments ask for, before the command
is looked at. -/
def configured (files : Files) (r : Request) : Except Failure Settings := do
  let s ← (loadSettings files r).result
  let _ ← levelFor r s
  pure s

/-- A way in which the settings are wrong, with the failure that tells it. Of the arguments only
the file of the settings and the level of messages bear on it. -/
inductive Misconfigured (files : Files) (r : Request) : Failure → Prop where
  | missing (path : String) (hpath : given? r.config = some path)
    (h : files (.ofText path) = .absent) :
    Misconfigured files r (Problem.configNotFound (FilePath.ofText path).text).failure
  | malformed (path : String) (cs : List Char) (hpath : given? r.config = some path)
    (hfile : files.Holds (.ofText path) cs) (h : Yaml.read cs = .error .malformed) :
    Misconfigured files r
      (.problem (.configInvalid (Document.invalidYaml (.ofText path))) (some .yaml))
  | shapeless (path : String) (cs : List Char) (v : Value) (hpath : given? r.config = some path)
    (hfile : files.Holds (.ofText path) cs) (h : Yaml.read cs = .ok v) (hv : v.isNull = false)
    (hshape : v.entries? = none) :
    Misconfigured files r
      (Problem.configInvalid ("Configuration file " ++ (FilePath.ofText path).text ++
        " must be a YAML mapping, got " ++ v.typeName)).failure
  | reserved (path : String) (cs : List Char) (v : Value) (entries : Value.Entries) (k : String)
    (hpath : given? r.config = some path) (hfile : files.Holds (.ofText path) cs)
    (h : Yaml.read cs = .ok v) (hv : v.entries? = some entries)
    (hk : Store.FirstReserved entries k) :
    Misconfigured files r
      (.problem (.configInvalid ("Invalid configuration: " ++ Wording.forbiddenKey k))
        (some (.problem .forbiddenKey)))
  | level (s : Settings) (v : Value) (name : String) (hs : (loadSettings files r).result = .ok s)
    (hasked : given? r.logLevel = none) (hv : levelSetting s = .ok v)
    (hname : upperText v = .ok name) (h : LogLevel.ofName? name = none) :
    Misconfigured files r
      (Problem.configInvalid ("Unknown logging level in configuration: " ++ name)).failure

/-- What a finished run has printed: the report of the version, or the value that was looked for,
with the end of a line; or the help. -/
inductive Printed (files : Files) (r : Request) : String → Prop where
  | security (s : Settings) (current : Value) (x : Release.Security)
    (hs : configured files r = .ok s) (hcurrent : versionFor r s = .ok current)
    (hcommand : r.command = some .security)
    (hx : Release.checkSecurity Release.history current = .ok x) :
    Printed files r (x.report ++ "\n")
  | check (s : Settings) (current target : Value) (x : Release.Migration)
    (hs : configured files r = .ok s) (hcurrent : versionFor r s = .ok current)
    (hcommand : r.command = some (.check target))
    (hx : Release.checkMigration Release.history current target = .ok x) :
    Printed files r (x.report ++ "\n")
  | get (s : Settings) (source path v : Value) (store : Store) (line : List Char)
    (hs : configured files r = .ok s) (hcommand : r.command = some (.get source path))
    (hstore : (loadSource files s source).result = .ok store) (hv : store.resolve path = .ok v)
    (hwritten : Json.refusal? v = none) (hline : Json.write v = codePoints line) :
    Printed files r (String.ofList line ++ "\n")
  | help (hcommand : r.command = none) : Printed files r help

section Stages

variable (files : Files) (r : Request)

theorem result_eq_configured :
    r.result files = configured files r >>= fun s => (answer files r s).result := by
  simp [Request.result, configured, bind_assoc]

theorem configured_congr (r' : Request) (hconfig : r'.config = r.config)
    (hlevel : r'.logLevel = r.logLevel) : configured files r' = configured files r := by
  unfold configured loadSettings levelFor
  rw [hconfig, hlevel]

theorem configured_of_loadSettings (f : Failure) (h : (loadSettings files r).result = .error f) :
    configured files r = .error f := by
  rw [configured, h]
  rfl

theorem result_loadSettings (path : String) (hpath : given? r.config = some path) :
    (loadSettings files r).result =
      Settings.document files (.ofText path) >>= Settings.ofValue := by
  rw [loadSettings, hpath]
  exact Settings.result_load files (.ofText path)

theorem configured_of_readYaml (path : String) (cs : List Char) (f : Failure)
    (hpath : given? r.config = some path) (hfile : files.Holds (.ofText path) cs)
    (h : Settings.readYaml (.ofText path) cs >>= Settings.ofValue = .error f) :
    configured files r = .error f := by
  obtain ⟨octets, hoctets, htext⟩ := hfile
  refine configured_of_loadSettings files r f ?_
  rw [result_loadSettings files r path hpath, Settings.document, hoctets]
  change (Files.textOf octets >>= Settings.readYaml (.ofText path)) >>= _ = _
  rw [htext]
  exact h

theorem levelFor_unknown (s : Settings) (v : Value) (name : String)
    (hasked : given? r.logLevel = none) (hv : levelSetting s = .ok v)
    (hname : upperText v = .ok name) (h : LogLevel.ofName? name = none) :
    levelFor r s = .error
      (Problem.configInvalid ("Unknown logging level in configuration: " ++ name)).failure := by
  rw [levelFor_of_none r s hasked, hv]
  change upperText v >>= levelNamed = _
  rw [hname]
  change levelNamed name = _
  rw [levelNamed, h]
  rfl

theorem Misconfigured.configured_eq (f : Failure) (h : Misconfigured files r f) :
    configured files r = .error f := by
  cases h with
  | missing path hpath h =>
    refine configured_of_loadSettings files r _ ?_
    rw [result_loadSettings files r path hpath, Settings.document, h]
    rfl
  | malformed path cs hpath hfile h =>
    refine configured_of_readYaml files r path cs _ hpath hfile ?_
    rw [Settings.readYaml, h]
    rfl
  | shapeless path cs v hpath hfile h hv hshape =>
    refine configured_of_readYaml files r path cs _ hpath hfile ?_
    rw [Settings.readYaml, h]
    dsimp only
    rw [hv, hshape]
    rfl
  | reserved path cs v entries k hpath hfile h hv hk =>
    have hnull : v.isNull = false := by
      cases v with
      | scalar s => cases hv
      | _ => rfl
    refine configured_of_readYaml files r path cs _ hpath hfile ?_
    rw [Settings.readYaml, h]
    dsimp only
    rw [hnull, hv]
    change Settings.ofValue v = _
    rw [Settings.ofValue_eq, Settings.given_of_entries? v entries hv,
      Store.build_of_decode v v entries (Store.decode_of_entries? v entries hv) hv,
      hk.ofEntries_eq]
    rfl
  | level s v name hs hasked hv hname h =>
    rw [configured, hs]
    change levelFor r s >>= _ = _
    rw [levelFor_unknown r s v name hasked hv hname h]
    rfl

theorem Printed.of_result (out : String) (h : r.result files = .ok out) : Printed files r out := by
  rw [result_eq_configured] at h
  obtain ⟨s, hs, h⟩ := (bind_eq_ok_iff _ _ _).1 h
  rw [result_answer] at h
  obtain ⟨current, hcurrent, h⟩ := (bind_eq_ok_iff _ _ _).1 h
  unfold answered at h
  split at h
  next hcommand =>
    obtain ⟨x, hx, rfl⟩ := (map_eq_ok_iff _ _ _).1 h
    exact .security s current x hs hcurrent hcommand hx
  next target hcommand =>
    obtain ⟨x, hx, rfl⟩ := (map_eq_ok_iff _ _ _).1 h
    exact .check s current target x hs hcurrent hcommand hx
  next source path hcommand =>
    obtain ⟨store, hstore, h⟩ := (bind_eq_ok_iff _ _ _).1 h
    obtain ⟨v, hv, h⟩ := (bind_eq_ok_iff _ _ _).1 h
    unfold jsonLine at h
    split at h
    next => cases h
    next hwritten =>
      split at h
      next => cases h
      next line hline =>
        obtain rfl := Except.ok.inj h
        exact .get s source path v store line hs hcommand hstore hv hwritten
          ((proper_eq_ok_iff _ line).1 hline)
  next hcommand =>
    obtain rfl := Except.ok.inj h
    exact .help hcommand

end Stages

theorem ending_run (files : Files) (args : List String) (r : Request)
    (h : Request.read args = .ok r) : (run files args).ending = (seen (r.result files)).1 :=
  congrArg Prod.fst (seen_run files args r h)

theorem result_of_failed (files : Files) (args : List String) (r : Request)
    (h : Request.read args = .ok r) (hstatus : (run files args).ending.status? = some 1) :
    ∃ p cause, r.result files = .error (.problem p cause) := by
  rw [ending_run files args r h] at hstatus
  cases hresult : r.result files with
  | ok out => simp [hresult, seen, Ending.status?] at hstatus
  | error f =>
    cases f with
    | problem p cause => exact ⟨p, cause, rfl⟩
    | crash c => simp [hresult, seen, Ending.status?] at hstatus

theorem result_of_finished (files : Files) (args : List String) (r : Request)
    (h : Request.read args = .ok r) (hstatus : (run files args).ending.status? = some 0) :
    ∃ out, r.result files = .ok out := by
  rw [ending_run files args r h] at hstatus
  cases hresult : r.result files with
  | ok out => exact ⟨out, rfl⟩
  | error f => cases f <;> simp [hresult, seen, Ending.status?] at hstatus

/-- A run with status one has printed nothing, and told one problem. A run with status zero has told
none, and printed its answer. If the settings or the level of messages are wrong, then every
request with the same of both is seen to end in the same way. -/
theorem run_all_or_nothing (files : Files) (args : List String) (r : Request)
    (h : Request.read args = .ok r) :
    ((run files args).ending.status? = some 1 → ∃ p cause,
      (run files args).seen =
        (.failed p cause, "", "error: [" ++ p.code ++ "] " ++ p.message ++ "\n")) ∧
    ((run files args).ending.status? = some 0 →
      (run files args).stderr = "" ∧ Printed files r (run files args).stdout) ∧
    (∀ f, Misconfigured files r f → configured files r = .error f ∧
      (run files args).ending.status? = some 1) ∧
    ∀ f, configured files r = .error f → ∀ (args' : List String) (r' : Request),
      Request.read args' = .ok r' → r'.config = r.config → r'.logLevel = r.logLevel →
        (run files args').seen = (run files args).seen := by
  have hseen := seen_run files args r h
  refine ⟨fun hstatus => ?_, fun hstatus => ?_, fun f hf => ?_, fun f hf args' r' h' hc hl => ?_⟩
  · obtain ⟨p, cause, hresult⟩ := result_of_failed files args r h hstatus
    exact ⟨p, cause, by rw [hseen, hresult, seen_problem]⟩
  · obtain ⟨out, hresult⟩ := result_of_finished files args r h hstatus
    rw [hresult] at hseen
    have hstdout : (run files args).stdout = out := congrArg (·.2.1) hseen
    exact ⟨congrArg (·.2.2) hseen, hstdout ▸ Printed.of_result files r out hresult⟩
  · have hconfigured := hf.configured_eq files r f
    refine ⟨hconfigured, ?_⟩
    rw [ending_run files args r h, result_eq_configured, hconfigured]
    cases hf <;> rfl
  · rw [hseen, seen_run files args' r' h', result_eq_configured, result_eq_configured,
      configured_congr files r r' hc hl, hf]
    rfl

end

/-- With a reserved key in the settings, the document is not looked for and the version not read. -/
theorem run_all_or_nothing_reserved_key :
    let files : Files := fun path =>
      if path = .ofText "c.yaml" then .file (Utf8.encode "prototype: 1\n".toList) else .absent
    let args := ["--config", "c.yaml", "get", "x", "a#0"]
    let args' := ["--config", "c.yaml", "--current-version", "9", "check", "0.0.4"]
    let failure : Failure :=
      .problem (.configInvalid "Invalid configuration: Dangerous key \"prototype\" is not allowed")
        (some (.problem .forbiddenKey))
    let r : Request := ⟨some "c.yaml", none, none, some (.get (.text "x") (.text "a#0"))⟩
    let r' : Request := ⟨some "c.yaml", some "9", none, some (.check (.text "0.0.4"))⟩
    Request.read args = .ok r ∧ Request.read args' = .ok r' ∧ configured files r = .error failure ∧
      (run files args).seen = seen (.error failure) ∧
      (run files args').seen = (run files args).seen := by
  intro files args args' failure r r'
  have hread : Request.read args = .ok r := by rfl
  have hread' : Request.read args' = .ok r' := by rfl
  have hreserved : Misconfigured files r failure := by
    refine .reserved "c.yaml" "prototype: 1\n".toList (.mapping [(.text "prototype", .int 1)])
      [(.text "prototype", .int 1)] "prototype" rfl ⟨_, rfl, rfl⟩ (by cbv) rfl ?_
    exact ⟨["__proto__", "constructor"], [], rfl, by simp [Table.keys], by simp [Table.keys]⟩
  obtain ⟨-, -, hwrong, hsame⟩ := run_all_or_nothing files args r hread
  have hconfigured := (hwrong failure hreserved).1
  refine ⟨hread, hread', hconfigured, ?_, hsame failure hconfigured args' r' hread' rfl rfl⟩
  rw [seen_run files args r hread, result_eq_configured, hconfigured]
  rfl

end DotPath.CommandLine

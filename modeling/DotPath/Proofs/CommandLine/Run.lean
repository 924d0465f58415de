import DotPath.CommandLine
import DotPath.Proofs.Outcome
import DotPath.Proofs.Path.Walk

set_option autoImplicit false

/-!
What a run comes to. The messages that it leaves behind do not bear on how it ends, nor on what it
prints: a request comes to a text or to a failure, and these say what is seen of the run.
-/

namespace DotPath

theorem Action.ofResult_bind {α β : Type} (r : Except Failure α) (f : α → Except Failure β) :
    (ofResult r >>= fun a => ofResult (f a)) = ofResult (r >>= f) := by
  cases r <;> rfl

/-- Settings always answer for two words with a dot between them. -/
theorem Settings.exists_get (s : Settings) (k l : String) (default : Value)
    (hk : k.toList.all isWordChar && !k.isEmpty) (hl : l.toList.all isWordChar && !l.isEmpty) :
    ∃ v, s.get (.text (k ++ "." ++ l)) default = .ok v := by
  have hword (w : String) (hw : w.toList.all isWordChar && !w.isEmpty) :
      Segment.IsWord w.toList := by
    simp only [Bool.and_eq_true, List.all_eq_true, Bool.not_eq_true'] at hw
    exact ⟨by simpa using hw.2, hw.1⟩
  have hparse := Path.parse_names [k, l] (by simp)
    (by simpa using ⟨hword k hk, hword l hl⟩)
  have hpath : ".".intercalate [k, l] = k ++ "." ++ l := rfl
  have hresolve : s.store.resolve (.text (k ++ "." ++ l)) =
      (Path.walk (k ++ "." ++ l) s.store.entries _).mapError Problem.failure :=
    Path.resolve_of_parse _ _ _ (hpath ▸ hparse)
  unfold Settings.get
  rw [hresolve]
  cases Path.walk (k ++ "." ++ l) s.store.entries _ with
  | ok v => exact ⟨_, rfl⟩
  | error p => exact ⟨_, rfl⟩

namespace CommandLine

section

variable (files : Files) (r : Request) (s : Settings)

/-- The settings always tell a version. -/
theorem exists_versionFor : ∃ current, versionFor r s = .ok current := by
  unfold versionFor
  cases given? r.currentVersion with
  | some v => exact ⟨_, rfl⟩
  | none => exact s.exists_get "migration" "current_version" _ rfl rfl

variable [Host]

theorem result_loadSource (source : Value) :
    (loadSource files s source).result =
      (Folder.pathOf source).mapError Failure.crash >>= fun path =>
        match files path with
        | .file _ => (Store.load files path).result
        | .refused message => .error (.crash (.system message))
        | .absent => folder s >>= fun f => (Store.load files (f.locate source.display)).result := by
  unfold loadSource
  rw [Action.result_ofResult_bind]
  refine congrArg _ (funext fun path => ?_)
  unfold Files.octets?
  cases files path with
  | file octets => rfl
  | refused message => rfl
  | absent =>
    change (Action.ofResult (folder s) >>= _).result = _
    rw [Action.result_ofResult_bind]
    refine congrArg _ (funext fun f => ?_)
    -- Both sides load the same file, the left one after a message.
    unfold Folder.load Store.load Document.load Files.octets?
    dsimp only
    cases files (f.locate source.display) with
    | refused message => rfl
    | absent => rfl
    | file octets =>
      simp only [pure_bind, Action.ofResult_bind]
      generalize Files.textOf octets >>= Document.read (f.locate source.display) = v
      cases v <;> rfl

/-- What a command comes to for a version. -/
def answered (current : Value) : Except Failure String :=
  match r.command with
  | some .security =>
    (fun x => x.report ++ "\n") <$> Release.checkSecurity Release.history current
  | some (.check version) =>
    (fun x => x.report ++ "\n") <$> Release.checkMigration Release.history current version
  | some (.get source path) => do
    let store ← (loadSource files s source).result
    jsonLine (← store.resolve path)
  | none => .ok help

theorem result_answer : (answer files r s).result = versionFor r s >>= answered files r s := by
  unfold answer
  rw [Action.result_ofResult_bind]
  refine congrArg _ (funext fun current => ?_)
  unfold answered
  rcases r.command with _ | _ | version | ⟨source, path⟩ <;> dsimp only
  · rfl
  · cases Release.checkSecurity Release.history current <;> rfl
  · cases Release.checkMigration Release.history current version <;> rfl
  · simp only [Action.ofResult_bind]
    exact Action.result_bind_ofResult _ _

/-- What a request comes to. -/
def Request.result : Except Failure String := do
  let s ← (loadSettings files r).result
  let _ ← levelFor r s
  (answer files r s).result

end

/-- What is seen of a run that comes to a text or a failure: how it ends, and what it prints. -/
def seen : Except Failure String → Ending × String × String
  | .ok out => (.finished, out, "")
  | .error (.problem p cause) => (.failed p cause, "", s!"error: {p.line}\n")
  | .error (.crash c) => (.crashed c, "", "")

def Outcome.seen (o : Outcome) : Ending × String × String := (o.ending, o.stdout, o.stderr)

theorem seen_failed (f : Failure) (log : List LogEntry) :
    (failed f log).seen = CommandLine.seen (.error f) := by
  cases f <;> rfl

variable [Host]

theorem seen_run (files : Files) (args : List String) (r : Request)
    (h : Request.read args = .ok r) : (run files args).seen = seen (r.result files) := by
  rw [run, h]
  change (r.run files).seen = _
  unfold Request.run Request.result Action.result
  cases (loadSettings files r).outcome.1 with
  | error f => exact seen_failed f []
  | ok s =>
    change _ = seen (levelFor r s >>= fun _ => (answer files r s).outcome.1)
    dsimp only
    cases levelFor r s with
    | error f => exact seen_failed f []
    | ok level =>
      change _ = seen (answer files r s).outcome.1
      dsimp only
      generalize (answer files r s).outcome = o
      obtain ⟨result, log⟩ := o
      cases result with
      | ok out => rfl
      | error f => exact seen_failed f _

end CommandLine

end DotPath

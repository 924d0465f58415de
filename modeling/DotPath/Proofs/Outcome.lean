import DotPath.Settings
import Mathlib

set_option autoImplicit false

/-!
Outcomes of computations that may fail. A computation in steps succeeds just when its steps do. What
the loading of a document, a store or settings comes to depends on the file alone, and not on the
messages that are left behind.
-/

namespace DotPath

open Text

section Except

variable {ε ε' α β : Type}

theorem bind_eq_ok_iff (x : Except ε α) (f : α → Except ε β) (b : β) :
    x >>= f = .ok b ↔ ∃ a, x = .ok a ∧ f a = .ok b := by
  cases x <;> simp [bind, Except.bind]

theorem map_eq_ok_iff (x : Except ε α) (f : α → β) (b : β) :
    f <$> x = .ok b ↔ ∃ a, x = .ok a ∧ f a = b := by
  cases x <;> simp [Functor.map, Except.map]

theorem mapError_eq_ok_iff (x : Except ε α) (f : ε → ε') (a : α) :
    x.mapError f = .ok a ↔ x = .ok a := by
  cases x <;> simp [Except.mapError]

theorem mapM_ok_iff (f : α → Except ε β) (xs : List α) (ys : List β) :
    xs.mapM f = .ok ys ↔ List.Forall₂ (fun x y => f x = .ok y) xs ys := by
  induction xs generalizing ys with
  | nil => simp [pure, Except.pure, eq_comm]
  | cons x xs ih =>
    rw [List.mapM_cons]
    cases hx : f x with
    | error e => simp [hx, bind, Except.bind, List.forall₂_cons_left_iff]
    | ok y =>
      cases hxs : xs.mapM f with
      | error e =>
        have hno (zs : List β) : ¬ List.Forall₂ (fun x y => f x = .ok y) xs zs := by
          rw [← ih, hxs]
          simp
        simp [bind, Except.bind, List.forall₂_cons_left_iff, hno]
      | ok zs =>
        have hzs := (ih zs).1 hxs
        constructor
        · rintro ⟨⟩
          exact .cons hx hzs
        · rintro (_ | ⟨hy, hys⟩)
          have hys := (ih _).2 hys
          rw [hx] at hy
          rw [hxs] at hys
          cases hy
          cases hys
          rfl

theorem toOption_eq_some_iff (x : Except ε α) (a : α) : x.toOption = some a ↔ x = .ok a := by
  cases x <;> simp [Except.toOption]

end Except

/-! ### Crashes -/

section Crashes

variable {α β : Type}

/-- The computation ends with an error that is none of the documented ones. -/
def Crashes (x : Except Failure α) : Prop := ∃ c, x = .error (.crash c)

@[simp] theorem not_crashes_ok (a : α) : ¬ Crashes (.ok a : Except Failure α) := by
  simp [Crashes]

@[simp] theorem not_crashes_problem (p : Problem) (cause : Option Cause) :
    ¬ Crashes (.error (.problem p cause) : Except Failure α) := by
  simp [Crashes]

@[simp] theorem crashes_crash (c : Crash) : Crashes (.error (.crash c) : Except Failure α) :=
  ⟨c, rfl⟩

theorem crashes_bind_iff (x : Except Failure α) (f : α → Except Failure β) :
    Crashes (x >>= f) ↔ Crashes x ∨ ∃ a, x = .ok a ∧ Crashes (f a) := by
  cases x <;> simp [Crashes, bind, Except.bind]

theorem crashes_map_iff (x : Except Failure α) (f : α → β) : Crashes (f <$> x) ↔ Crashes x := by
  cases x <;> simp [Crashes, Functor.map, Except.map]

theorem crashes_mapError_iff (x : Except Crash α) :
    Crashes (x.mapError Failure.crash) ↔ ∃ c, x = .error c := by
  cases x <;> simp [Crashes, Except.mapError]

end Crashes

namespace Action

variable {α β : Type}

/-- What an action comes to. -/
def result (a : Action α) : Except Failure α := a.outcome.1

theorem result_ofResult_bind (r : Except Failure α) (f : α → Action β) :
    (ofResult r >>= f).result = r >>= fun a => (f a).result := by
  cases r <;> rfl

/-- A last step that leaves no messages. -/
theorem result_bind_ofResult (a : Action α) (f : α → Except Failure β) :
    (a >>= fun v => ofResult (f v)).result = a.result >>= f := by
  -- The last step is given the messages of the action, and it gives them back.
  have hlast (r : Except Failure α) (log : List LogEntry) :
      ((ExceptT.bindCont (fun v => ofResult (f v)) r : StateM _ _).run log).1 = r >>= f := by
    cases r <;> rfl
  exact hlast (a.run.run []).1 (a.run.run []).2

end Action

variable [Host]

theorem Document.result_load (files : Files) (path : FilePath) :
    (Document.load files path).result =
      match files path with
      | .file octets => Files.textOf octets >>= Document.read path
      | .absent => .error (Problem.contentNotFound path.text).failure
      | .refused message => .error (.crash (.system message)) := by
  unfold Document.load Files.octets?
  cases files path with
  | file octets =>
    simp only [pure_bind]
    cases Files.textOf octets <;> rfl
  | absent => rfl
  | refused message => rfl

/-- A file of JSON is read as a text is, a fault being told with the path. -/
theorem Document.readJson_eq (path : FilePath) (text : List Char) :
    Document.readJson path text = (Json.readText (codePoints text)).mapError
      (Store.stopFailure s!"Invalid JSON in {path.text}: " (codePoints text)) := by
  unfold Document.readJson
  dsimp only
  cases Json.readText (codePoints text) with
  | ok v => rfl
  | error stop => cases stop <;> rfl

theorem Store.result_load (files : Files) (path : FilePath) :
    (Store.load files path).result = (Document.load files path).result >>= Store.build :=
  Action.result_bind_ofResult _ _

/-- The value of the file of settings at a path. -/
def Settings.document (files : Files) (path : FilePath) : Except Failure Value :=
  match files path with
  | .file octets => Files.textOf octets >>= Settings.readYaml path
  | .absent => .error (Problem.configNotFound path.text).failure
  | .refused message => .error (.crash (.system message))

theorem Settings.result_load (files : Files) (path : FilePath) :
    (Settings.load files path).result = Settings.document files path >>= Settings.ofValue := by
  unfold Settings.load Settings.document Files.octets?
  cases files path with
  | file octets =>
    simp only [pure_bind, Action.result_ofResult_bind, bind_assoc]
    rfl
  | absent => rfl
  | refused message => rfl

end DotPath

import DotPath.Proofs.Store.Memory
import DotPath.Store.Session
import Mathlib

set_option autoImplicit false

/-!
A store keeps to itself. The entries of the store have a place of their own, and no step writes
there: in every run a question is answered as by a store that has just been built of the mapping as
it was, and a change as if nothing had been asked.

The values of the mapping are trees. A mapping that is reached from its own entries is not meant
here: the values of a copy would lead to it, too.
-/

namespace DotPath

namespace Store

/-- The source after a step; a change that fails leaves it as it is. -/
def Step.apply (step : Step) (source : Source) : Source :=
  match step.change? with
  | none => source
  | some change => (change source).toOption.getD source

/-- The source after the steps of a run. -/
def sourceAfter (source : Source) (steps : List Step) : Source :=
  steps.foldl (fun current step => step.apply current) source

namespace Session

/-- A session in which the source and the entries of a store stand apart. -/
structure Apart (session : Session) (s : Store) (source : Source) : Prop where
  places : session.source ≠ session.copy
  there : session.source < session.memory.objects.length
  source_eq : session.memory.read session.source = source
  copy_eq : session.memory.read session.copy = .value (.mapping s.entries)

theorem apart_start (s : Store) (source : Source) : (start s source).Apart s source where
  places := by simp [start, Memory.empty, Memory.add]
  there := by simp [start, Memory.empty, Memory.add]
  source_eq := rfl
  copy_eq := rfl

variable {session : Session} {s : Store} {source : Source}

theorem Apart.store_eq (h : session.Apart s source) : session.store = s := by
  rw [store, h.copy_eq]
  rfl

end Session

section

variable [Host]

/-- The answer to a step by a store and a source that have nothing in common. -/
def separately (s : Store) (source : Source) (step : Step) : Except Failure Value :=
  match step.change? with
  | none => s.answer step
  | some change => ((change source).mapError Failure.crash).map fun _ => .null

namespace Session

variable {session : Session} {s : Store} {source : Source}

/-- A step writes at most to the place of the source. -/
theorem Apart.answer (h : session.Apart s source) (step : Step) :
    (session.answer step).1 = separately s source step ∧
      (session.answer step).2.Apart s (step.apply source) := by
  unfold Session.answer separately Step.apply
  cases step.change? with
  | none => exact ⟨by rw [h.store_eq], h⟩
  | some change =>
    dsimp only
    rw [h.source_eq]
    -- A change that fails writes nothing.
    cases change source with
    | error c => exact ⟨rfl, h⟩
    | ok changed =>
      refine ⟨rfl, h.places, ?_, ?_, ?_⟩
      · simpa [Memory.write] using h.there
      · exact Memory.read_write_self _ _ _ h.there
      · exact (Memory.read_write_of_ne _ _ _ h.places).trans h.copy_eq

theorem Apart.answers (h : session.Apart s source) (steps : List Step) (i : Nat) (step : Step)
    (hstep : steps[i]? = some step) :
    (session.answers steps)[i]? =
      some (separately s (sourceAfter source (steps.take i)) step) := by
  -- Each step hands on a session that stands apart, with the store as it was and another source.
  induction steps generalizing session source i with
  | nil => simp at hstep
  | cons first steps ih =>
    obtain ⟨hfirst, hrest⟩ := h.answer first
    cases i with
    | zero =>
      obtain rfl : first = step := by simpa using hstep
      exact congrArg some hfirst
    | succ i => exact ih hrest i hstep

end Session

theorem run_getElem? (s : Store) (source : Source) (steps : List Step) (i : Nat) (step : Step)
    (hstep : steps[i]? = some step) :
    (s.run source steps)[i]? = some (separately s (sourceAfter source (steps.take i)) step) :=
  (Session.apart_start s source).answers steps i step hstep

/-- A question in a run is answered as by a store that is built of the mapping as it was before all
changes. -/
theorem run_question (entries : Value.Entries) (s : Store)
    (hbuild : build (.mapping entries) = .ok s) (steps : List Step) (i : Nat) (question : Step)
    (hstep : steps[i]? = some question) (hquestion : question.change? = none) :
    (s.run (.value (.mapping entries)) steps)[i]? =
      some (build (.mapping entries) >>= fun fresh => fresh.answer question) := by
  rw [run_getElem? s _ steps i question hstep, separately, hquestion, hbuild]
  rfl

end

theorem run_question_emptied :
    let entries : Value.Entries := [(.text "a", .mapping [(.text "b", .int 1)])]
    let steps : List Step :=
      [.sourceSet (.text "__proto__") .null, .path (.text "a.b"), .sourceSet (.text "a") (.int 5),
        .path (.text "a.b"), .sourceRemove (.text "__proto__"), .sourceRemove (.text "a"),
        .path (.text "a.b")]
    build (.mapping entries) = .ok ⟨entries⟩ ∧
      (run ⟨entries⟩ (.value (.mapping entries)) steps)[6]? = some (.ok (.int 1)) := by
  intro entries steps
  have hbuild : build (.mapping entries) = .ok ⟨entries⟩ := rfl
  have hfresh : Store.answer ⟨entries⟩ (.path (.text "a.b")) = .ok (.int 1) := by cbv
  refine ⟨hbuild, ?_⟩
  rw [run_question entries ⟨entries⟩ hbuild steps 6 (.path (.text "a.b")) rfl rfl, hbuild]
  exact congrArg some hfresh

/-- In the place of its source a store would see what is done to it. -/
example :
    (⟨⟨[.value (.mapping [])]⟩, 0, 0⟩ : Session).answers
      [.sourceSet (.text "a") .null, .size] = [.ok .null, .ok (.int 1)] := by
  rfl

end Store

end DotPath

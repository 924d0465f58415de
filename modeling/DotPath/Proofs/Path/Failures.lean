import DotPath.Proofs.Path.Walk

set_option autoImplicit false

/-!
How the resolving of a path can fail. It fails with one of the problems of paths, and breaks down
just when the first segment that cannot be read has an index of too many digits.
-/

namespace DotPath

open Number Text

/-- A list is refused for the first of its elements that is refused. -/
theorem mapM_error_iff {α β : Type} (f : α → Except Failure β) (xs : List α) (e : Failure) :
    xs.mapM f = .error e ↔ ∃ before x after, xs = before ++ x :: after ∧
      (∀ y ∈ before, ∃ z, f y = .ok z) ∧ f x = .error e := by
  induction xs with
  | nil => simp [pure, Except.pure]
  | cons x xs ih =>
    rw [List.mapM_cons]
    cases hx : f x with
    | error d =>
      constructor
      · rintro ⟨⟩
        exact ⟨[], x, xs, rfl, by simp, hx⟩
      · rintro ⟨before, y, after, heq, hbefore, hy⟩
        cases before with
        | nil =>
          obtain ⟨rfl, -⟩ := List.cons.inj heq
          obtain rfl := Except.error.inj (hx.symm.trans hy)
          rfl
        | cons b before =>
          obtain ⟨rfl, -⟩ := List.cons.inj heq
          obtain ⟨z, hz⟩ := hbefore x (by simp)
          simp [hx] at hz
    | ok z =>
      have hstep : (do
          let z ← Except.ok z
          let zs ← xs.mapM f
          pure (z :: zs)) = .error e ↔ xs.mapM f = .error e := by
        cases xs.mapM f <;> simp [bind, Except.bind, pure, Except.pure]
      rw [hstep, ih]
      constructor
      · rintro ⟨before, y, after, rfl, hbefore, hy⟩
        exact ⟨x :: before, y, after, rfl, List.forall_mem_cons.2 ⟨⟨z, hx⟩, hbefore⟩, hy⟩
      · rintro ⟨before, y, after, heq, hbefore, hy⟩
        cases before with
        | nil =>
          obtain ⟨rfl, -⟩ := List.cons.inj heq
          simp [hx] at hy
        | cons b before =>
          obtain ⟨rfl, rfl⟩ := List.cons.inj heq
          exact ⟨before, y, after, rfl, (List.forall_mem_cons.1 hbefore).2, hy⟩

theorem Segment.parse_error_iff (raw : String) (f : Failure) :
    parse raw = .error f ↔
      lastWord? raw.toList = none ∧ f = (Problem.invalidSegment raw).failure ∨
        ∃ key ds, lastWord? raw.toList = some (key, ds) ∧ digitLimit < ds.length ∧
          f = .crash (.numeral (.tooLong ds.length)) := by
  cases hword : lastWord? raw.toList with
  | none => simp [parse_of_none raw hword, eq_comm]
  | some word =>
    obtain ⟨key, ds⟩ := word
    obtain ⟨-, hds⟩ := isWord_of_lastWord? _ _ _ hword
    rw [parse_of_lastWord? raw key ds hword]
    by_cases hne : ds = []
    · simp [hne, readIndex]
    · rw [readIndex_digits ds hne hds]
      by_cases hlong : digitLimit < ds.length <;> simp [hlong, eq_comm]

namespace Path

/-- The problems that a path can have. -/
def problems : List ProblemKind :=
  [.emptyPath, .invalidSegment, .valueNotFound, .indexOutOfBounds, .indexOnNonContainer]

/-- The first segment of the path that cannot be read has an index of so many digits, more than an
index may have. -/
def LongIndex (path : String) (n : Nat) : Prop :=
  digitLimit < n ∧ ∃ before raw after key ds, raws path = before ++ raw :: after ∧
    (∀ r ∈ before, ∃ s, Segment.parse r = .ok s) ∧
    Segment.lastWord? raw.toList = some (key, ds) ∧ ds.length = n

theorem parse_error_cases (path : String) (f : Failure) (h : parse path = .error f) :
    (∃ p : Problem, f = p.failure ∧ p.kind ∈ problems) ∨
      ∃ n, LongIndex path n ∧ f = .crash (.numeral (.tooLong n)) := by
  unfold parse at h
  split at h
  · exact .inl ⟨.emptyPath, (Except.error.inj h).symm, by decide⟩
  · obtain ⟨before, raw, after, hraws, hbefore, hraw⟩ := (mapM_error_iff _ _ _).1 h
    obtain ⟨-, rfl⟩ | ⟨key, ds, hword, hlong, rfl⟩ := (Segment.parse_error_iff raw f).1 hraw
    · exact .inl ⟨.invalidSegment raw, rfl, by simp [problems, Problem.kind]⟩
    · exact .inr ⟨ds.length, ⟨hlong, before, raw, after, key, ds, hraws, hbefore, hword, rfl⟩, rfl⟩

theorem parse_of_longIndex (path : String) (n : Nat) (h : LongIndex path n) :
    parse path = .error (.crash (.numeral (.tooLong n))) := by
  obtain ⟨hlong, before, raw, after, key, ds, hraws, hbefore, hword, rfl⟩ := h
  have hne : ¬ path.isEmpty := by
    intro hempty
    have hraw : raw ∈ raws "" := by
      rw [← String.isEmpty_iff.1 hempty, hraws]
      simp
    obtain rfl : raw = "" := List.mem_singleton.1 hraw
    rw [Segment.lastWord?_of_forall_not _ (by simp)] at hword
    cases hword
  rw [parse, if_neg hne, mapM_error_iff]
  exact ⟨before, raw, after, hraws, hbefore,
    (Segment.parse_error_iff raw _).2 (.inr ⟨key, ds, hword, hlong, rfl⟩)⟩

theorem longIndex_indexed (key ds : List Char) (hkey : Segment.IsWord key)
    (hds : ∀ c ∈ ds, isAsciiDigit c) (hlong : digitLimit < ds.length) :
    LongIndex (String.ofList (key ++ '#' :: ds)) ds.length := by
  have hdot : '.' ∉ key ++ '#' :: ds := by
    intro hmem
    obtain h | h := List.mem_append.1 hmem
    · exact absurd (hkey.word _ h) (by decide)
    · obtain h | h := List.mem_cons.1 h
      · cases h
      · exact absurd (hds _ h) (by decide)
  have hraws : raws (String.ofList (key ++ '#' :: ds)) = [String.ofList (key ++ '#' :: ds)] := by
    have h := raws_intercalate [String.ofList (key ++ '#' :: ds)] (by simp) (by simpa using hdot)
    simpa using h
  refine ⟨hlong, [], _, [], key, ds, hraws, by simp, ?_, rfl⟩
  rw [String.toList_ofList]
  exact Segment.lastWord?_indexed key ds hkey hds

theorem outOfBounds_of_pick (v : Value) (index : Option Int) (p : Problem)
    (h : pick v index = .error p) : p.kind = .indexOutOfBounds := by
  unfold pick at h
  split at h
  · unfold element at h
    split at h
    · cases h
      rfl
    · cases h
  · cases h

theorem mem_problems_of_enter (path : String) (v : Value) (s : Segment) (p : Problem)
    (h : enter path v s = .error p) : p.kind ∈ problems := by
  unfold enter at h
  split at h
  · cases h
    simp [problems, Problem.kind]
  split at h
  · cases h
    simp [problems, Problem.kind]
  split at h
  · cases h
    simp [problems, Problem.kind]
  split at h
  · cases h
    simp [problems, Problem.kind]
  · simp [outOfBounds_of_pick _ _ p h, problems]

theorem mem_problems_of_enterTop (path : String) (top : Value.Entries) (s : Segment) (p : Problem)
    (h : enterTop path top s = .error p) : p.kind ∈ problems := by
  unfold enterTop at h
  split at h
  · cases h
    simp [problems, Problem.kind]
  · simp [outOfBounds_of_pick _ _ p h, problems]

theorem mem_problems_of_follow (path : String) (v : Value) (segments : List Segment) (p : Problem)
    (h : follow path v segments = .error p) : p.kind ∈ problems := by
  induction segments generalizing v with
  | nil => cases h
  | cons s ss ih =>
    rw [follow_cons] at h
    cases henter : enter path v s with
    | error q =>
      rw [henter] at h
      obtain rfl := Except.error.inj h
      exact mem_problems_of_enter path v s q henter
    | ok w =>
      rw [henter] at h
      exact ih w h

theorem mem_problems_of_walk (path : String) (top : Value.Entries) (segments : List Segment)
    (p : Problem) (h : walk path top segments = .error p) : p.kind ∈ problems := by
  cases segments with
  | nil => cases h
  | cons s ss =>
    rw [walk] at h
    cases htop : enterTop path top s with
    | error q =>
      rw [htop] at h
      obtain rfl := Except.error.inj h
      exact mem_problems_of_enterTop path top s q htop
    | ok v =>
      rw [htop] at h
      exact mem_problems_of_follow path v ss p h

/-- Resolving gives a value or one of the problems of paths, or breaks down over an index. -/
theorem resolve_cases (top : Value.Entries) (path : String) :
    (∃ v, resolve top path = .ok v) ∨
      (∃ p : Problem, resolve top path = .error p.failure ∧ p.kind ∈ problems) ∨
      ∃ n, LongIndex path n ∧ resolve top path = .error (.crash (.numeral (.tooLong n))) := by
  unfold resolve
  cases hparse : parse path with
  | error f =>
    obtain ⟨p, rfl, hp⟩ | ⟨n, hn, rfl⟩ := parse_error_cases path f hparse
    · exact .inr (.inl ⟨p, rfl, hp⟩)
    · exact .inr (.inr ⟨n, hn, rfl⟩)
  | ok segments =>
    cases hwalk : walk path top segments with
    | ok v => exact .inl ⟨v, by simp [bind, Except.bind, hwalk, Except.mapError]⟩
    | error p =>
      exact .inr (.inl ⟨p, by simp [bind, Except.bind, hwalk, Except.mapError],
        mem_problems_of_walk path top segments p hwalk⟩)

theorem resolve_of_longIndex (top : Value.Entries) (path : String) (n : Nat)
    (h : LongIndex path n) : resolve top path = .error (.crash (.numeral (.tooLong n))) := by
  rw [resolve, parse_of_longIndex path n h]
  rfl

end Path

end DotPath

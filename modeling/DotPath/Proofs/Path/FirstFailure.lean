import DotPath.Proofs.Path.Walk

set_option autoImplicit false

/-!
Where a path fails. A path that cannot be followed stops at one segment: all paths up to it lead to
objects, it fails as the path cut short after it does, and `StepFault` says with which problem.
-/

namespace DotPath.Path

open Text

/-- The problem of a segment that cannot be followed from `base`; only a `later` segment refuses an
index on a leaf. -/
inductive StepFault (path : String) (later : Prop) (base : Value) (s : Segment) :
    Problem → Prop where
  | outOfBounds (i : Int) (target : Value) (items : List Value) :
      s.index = some i → base.under? s.key = some target → target.items? = some items →
      items.length ≤ i → StepFault path later base s (.indexOutOfBounds i items.length)
  | leaf (target : Value) :
      later → s.index.isSome → base.under? s.key = some target → target.kind.isContainer = false →
      StepFault path later base s (.indexOnNonContainer s.key target.kind)
  | notFound (reason : String) :
      base.under? s.key = none → StepFault path later base s (.valueNotFound s.key path reason)

section Steps

variable (path : String) (s : Segment) (hs : s.Proper)

include hs

theorem index_nonneg (i : Int) (hi : s.index = some i) : 0 ≤ i := by
  obtain ⟨n, rfl, -⟩ := hs.index i hi
  exact Int.natCast_nonneg n

theorem stepFault_of_pick (later : Prop) (base target : Value) (problem : Problem)
    (hu : base.under? s.key = some target) (h : pick target s.index = .error problem) :
    StepFault path later base s problem := by
  cases hi : s.index with
  | none => simp [hi, pick_none] at h
  | some i =>
    by_cases hk : target.kind = .sequence
    · obtain ⟨items, hitems⟩ := target.exists_items? hk
      rw [hi, pick_of_items? target items i hitems, element] at h
      have hnonneg := index_nonneg s hs i hi
      split at h
      next hout =>
        cases h
        exact .outOfBounds i target items hi hu hitems (by omega)
      next => simp at h
    · simp [pick_of_not_sequence target _ hk] at h

theorem stepFault_of_enterTop (later : Prop) (top : Value.Entries) (problem : Problem)
    (h : enterTop path top s = .error problem) :
    StepFault path later (.mapping top) s problem := by
  cases hu : (Value.mapping top).under? s.key with
  | none =>
    rw [enterTop_missing path top s hu] at h
    cases h
    exact .notFound nothingThere hu
  | some target =>
    rw [enterTop_found path top s target hu] at h
    exact stepFault_of_pick path s hs later _ target problem hu h

theorem stepFault_of_enter (later : Prop) (hl : later) (base : Value) (problem : Problem)
    (h : enter path base s = .error problem) : StepFault path later base s problem := by
  by_cases hb : base.kind = .object
  · cases hu : base.under? s.key with
    | none =>
      rw [enter_missing path base s hb hu] at h
      cases h
      exact .notFound _ hu
    | some target =>
      by_cases hleaf : s.index.isSome ∧ target.kind.isContainer = false
      · rw [enter_leaf path base s target hu hleaf.1 hleaf.2] at h
        cases h
        exact .leaf target hl hleaf.1 hu hleaf.2
      · rw [enter_found path base s target hu hleaf] at h
        exact stepFault_of_pick path s hs later base target problem hu h
  · rw [enter_no_keys path base s hb] at h
    cases h
    exact .notFound _ (base.under?_eq_none s.key (base.entries?_eq_none hb))

end Steps

section Cases

variable {path : String} {later : Prop} {base : Value} {s : Segment} {problem : Problem}
  (h : StepFault path later base s problem)

include h

theorem StepFault.outOfBounds_iff (i : Int) (n : Nat) :
    problem = .indexOutOfBounds i n ↔
      s.index = some i ∧ (n : Int) ≤ i ∧
        ∃ target items, base.under? s.key = some target ∧ target.items? = some items ∧
          items.length = n := by
  constructor
  · rintro rfl
    cases h with
    | outOfBounds _ target items hi hu hitems hle =>
      exact ⟨hi, hle, target, items, hu, hitems, rfl⟩
  · rintro ⟨hi, -, target, items, hu, hitems, rfl⟩
    cases h with
    | outOfBounds i' target' items' hi' hu' hitems' =>
      rw [hi] at hi'
      rw [hu] at hu'
      cases hi'
      cases hu'
      rw [hitems] at hitems'
      cases hitems'
      rfl
    | leaf target' _ _ hu' hk =>
      rw [hu] at hu'
      cases hu'
      simp [target.kind_eq_sequence items hitems, Kind.isContainer] at hk
    | notFound _ hu' => simp [hu] at hu'

theorem StepFault.leaf_iff (key : String) (kind : Kind) :
    problem = .indexOnNonContainer key kind ↔
      key = s.key ∧ later ∧ s.index.isSome ∧
        ∃ target, base.under? s.key = some target ∧ target.kind = kind ∧
          kind ≠ .sequence ∧ kind ≠ .object := by
  constructor
  · rintro rfl
    cases h with
    | leaf target hl hi hu hk =>
      exact ⟨rfl, hl, hi, target, hu, rfl, target.not_container hk⟩
  · rintro ⟨rfl, -, -, target, hu, rfl, hns, hno⟩
    cases h with
    | outOfBounds i' target' items' hi' hu' hitems' =>
      rw [hu] at hu'
      cases hu'
      exact absurd (target.kind_eq_sequence items' hitems') hns
    | leaf target' _ _ hu' =>
      rw [hu] at hu'
      cases hu'
      rfl
    | notFound _ hu' => simp [hu] at hu'

theorem StepFault.otherwise (hb : ∀ i n, problem ≠ .indexOutOfBounds i n)
    (hl : ∀ key kind, problem ≠ .indexOnNonContainer key kind) :
    ∃ reason, problem = .valueNotFound s.key path reason := by
  cases h with
  | outOfBounds i target items => exact absurd rfl (hb i items.length)
  | leaf target => exact absurd rfl (hl s.key target.kind)
  | notFound reason => exact ⟨reason, rfl⟩

end Cases

theorem take_ne_nil (ss : List Segment) (j : Nat) (hj : 0 < j) (hne : ss ≠ []) :
    ss.take j ≠ [] := by
  rw [Ne, List.take_eq_nil_iff]
  exact fun h => h.elim (Nat.ne_of_gt hj) hne

theorem kind_of_enter (path : String) (v w : Value) (s : Segment) (h : enter path v s = .ok w) :
    v.kind = .object := by
  by_contra hv
  simp [enter_no_keys path v s hv] at h

theorem walk_singleton (path : String) (top : Value.Entries) (s : Segment) :
    walk path top [s] = enterTop path top s := by
  rw [walk]
  exact bind_pure _

/-- One segment more. -/
theorem walk_take_succ (path : String) (top : Value.Entries) (ss : List Segment) (j : Nat)
    (s : Segment) (hj : 0 < j) (hs : ss[j]? = some s) :
    walk path top (ss.take (j + 1)) = walk path top (ss.take j) >>= (enter path · s) := by
  obtain ⟨hlt, rfl⟩ := List.getElem?_eq_some_iff.1 hs
  have hne := take_ne_nil ss j hj (List.ne_nil_of_length_pos (by omega))
  rw [List.take_succ_eq_append_getElem hlt, walk_append path top _ _ hne]
  congr 1
  funext v
  rw [follow_cons]
  exact bind_pure _

theorem walk_take_error (path : String) (top : Value.Entries) (ss : List Segment) (j : Nat)
    (problem : Problem) (hj : 0 < j) (hss : ss ≠ [])
    (h : walk path top (ss.take j) = .error problem) : walk path top ss = .error problem := by
  rw [← List.take_append_drop j ss, walk_append path top _ _ (take_ne_nil ss j hj hss), h]
  rfl

/-- A walk that gets past a segment has stood on an object there. -/
theorem walk_take_ok (path : String) (top : Value.Entries) (ss : List Segment) (i k : Nat)
    (v : Value) (hi : 0 < i) (hk : i + k + 1 ≤ ss.length)
    (h : walk path top (ss.take (i + k + 1)) = .ok v) :
    ∃ w, walk path top (ss.take i) = .ok w ∧ w.kind = .object := by
  induction k generalizing v with
  | zero =>
    have hs : ss[i]? = some ss[i] := List.getElem?_eq_getElem (by omega)
    rw [Nat.add_zero, walk_take_succ path top ss i _ hi hs] at h
    cases hw : walk path top (ss.take i) with
    | error problem => simp [hw, bind, Except.bind] at h
    | ok w =>
      rw [hw] at h
      exact ⟨w, rfl, kind_of_enter path w v _ h⟩
  | succ k ih =>
    have hs : ss[i + k + 1]? = some ss[i + k + 1] := List.getElem?_eq_getElem (by omega)
    rw [← Nat.add_assoc, walk_take_succ path top ss (i + k + 1) _ (by omega) hs] at h
    cases hw : walk path top (ss.take (i + k + 1)) with
    | error problem => simp [hw, bind, Except.bind] at h
    | ok w => exact ih w (by omega) hw

/-- The value that the segment after the first `j` starts from. -/
def StartsFrom (top : Value.Entries) (path : String) (j : Nat) (base : Value) : Prop :=
  if j = 0 then base = .mapping top else resolve top (upTo path j) = .ok base

section Cut

variable (top : Value.Entries) (path : String) (ss : List Segment) (hp : parse path = .ok ss)

include hp

/-- A path cut short goes as far as the whole path, but for the text in its problems. -/
theorem resolve_upTo (j : Nat) (hj : 0 < j) :
    resolve top (upTo path j) =
      ((walk path top (ss.take j)).mapError (Problem.withPath (upTo path j))).mapError
        Problem.failure := by
  rw [resolve_of_parse top _ _ (parse_upTo path ss j hj hp), walk_withPath]

theorem resolve_upTo_ok (j : Nat) (hj : 0 < j) (v : Value) :
    resolve top (upTo path j) = .ok v ↔ walk path top (ss.take j) = .ok v := by
  rw [resolve_upTo top path ss hp j hj]
  cases walk path top (ss.take j) <;> simp [Except.mapError]

theorem resolve_upTo_error (j : Nat) (hj : 0 < j) (e : Failure) :
    resolve top (upTo path j) = .error e ↔
      ∃ problem, walk path top (ss.take j) = .error problem ∧
        e = (problem.withPath (upTo path j)).failure := by
  rw [resolve_upTo top path ss hp j hj]
  cases walk path top (ss.take j) <;> simp [Except.mapError, eq_comm]

theorem stepFault_of_first (j : Nat) (s : Segment) (problem : Problem) (hs : ss[j]? = some s)
    (hok : j ≠ 0 → ∃ v, resolve top (upTo path j) = .ok v)
    (h : walk path top (ss.take (j + 1)) = .error problem) :
    ∃ base, StartsFrom top path j base ∧ StepFault path (0 < j) base s problem := by
  have hproper := proper_of_parse path ss hp s (List.mem_of_getElem? hs)
  rcases Nat.eq_zero_or_pos j with rfl | hj
  · obtain ⟨hlt, rfl⟩ := List.getElem?_eq_some_iff.1 hs
    have htake : ss.take (0 + 1) = [ss[0]] := by
      rw [List.take_succ_eq_append_getElem hlt]
      rfl
    rw [htake, walk_singleton] at h
    exact ⟨.mapping top, rfl, stepFault_of_enterTop path _ hproper _ top problem h⟩
  · obtain ⟨base, hbase⟩ := hok (by omega)
    rw [walk_take_succ path top ss j s hj hs,
      (resolve_upTo_ok top path ss hp j hj base).1 hbase] at h
    exact ⟨base, by rwa [StartsFrom, if_neg (by omega)],
      stepFault_of_enter path s hproper _ hj base problem h⟩

end Cut

/-- A path fails with `e` at its segment `s`, the one with number `f`, which starts from `base`. -/
structure FailsAt (top : Value.Entries) (path : String) (ss : List Segment) (e : Failure) (f : Nat)
    (s : Segment) (base : Value) : Prop where
  least : IsLeast {j | 0 < j ∧ j ≤ ss.length ∧ ∃ e', resolve top (upTo path j) = .error e'} f
  segment : ss[f - 1]? = some s
  starts : StartsFrom top path (f - 1) base
  same : ∃ e', resolve top (upTo path f) = .error e' ∧ e = e'.withPath path
  outOfBounds : ∀ i n, e = (Problem.indexOutOfBounds i n).failure ↔
    s.index = some i ∧ (n : Int) ≤ i ∧
      ∃ target items, base.under? s.key = some target ∧ target.items? = some items ∧
        items.length = n
  leaf : ∀ key kind, e = (Problem.indexOnNonContainer key kind).failure ↔
    key = s.key ∧ 1 < f ∧ s.index.isSome ∧
      ∃ target, base.under? s.key = some target ∧ target.kind = kind ∧
        kind ≠ .sequence ∧ kind ≠ .object
  otherwise : (∀ i n, e ≠ (Problem.indexOutOfBounds i n).failure) →
    (∀ key kind, e ≠ (Problem.indexOnNonContainer key kind).failure) →
    ∃ reason, e = (Problem.valueNotFound s.key path reason).failure

theorem withPath_of_walk (path : String) (top : Value.Entries) (ss : List Segment)
    (problem : Problem) (h : walk path top ss = .error problem) :
    problem.withPath path = problem := by
  have hw := walk_withPath path path top ss
  rw [h] at hw
  exact Except.error.inj hw

theorem exists_least_failure (top : Value.Entries) (path : String) (ss : List Segment)
    (hp : parse path = .ok ss) (e : Failure) (he : resolve top path = .error e) :
    ∃ f, IsLeast {j | 0 < j ∧ j ≤ ss.length ∧ ∃ e', resolve top (upTo path j) = .error e'} f := by
  classical
  have hlast : upTo path ss.length = path := upTo_length path _ (length_raws path ss hp).le
  have hex : ∃ j, 0 < j ∧ j ≤ ss.length ∧ ∃ e', resolve top (upTo path j) = .error e' :=
    ⟨ss.length, List.length_pos_iff.2 (parse_ne_nil path ss hp), le_rfl, e, by rw [hlast, he]⟩
  exact ⟨Nat.find hex, Nat.find_spec hex, fun _ hj => Nat.find_min' hex hj⟩

theorem exists_failsAt (top : Value.Entries) (path : String) (ss : List Segment)
    (hp : parse path = .ok ss) (e : Failure) (he : resolve top path = .error e) :
    ∃ f s base, FailsAt top path ss e f s base := by
  obtain ⟨f, hleast⟩ := exists_least_failure top path ss hp e he
  obtain ⟨⟨hpos, hle, e', he'⟩, hmin⟩ := hleast
  obtain ⟨j, rfl⟩ : ∃ j, f = j + 1 := ⟨f - 1, by omega⟩
  obtain ⟨problem, hcut, rfl⟩ := (resolve_upTo_error top path ss hp _ hpos e').1 he'
  have hwalk := walk_take_error path top ss _ problem hpos (parse_ne_nil path ss hp) hcut
  have hfail : e = problem.failure := by
    rw [resolve_of_parse top path ss hp, hwalk] at he
    exact (Except.error.inj he).symm
  have hs : ss[j]? = some ss[j] := List.getElem?_eq_getElem (by omega)
  have hok (hj : j ≠ 0) : ∃ v, resolve top (upTo path j) = .ok v := by
    cases hr : resolve top (upTo path j) with
    | error e'' =>
      have hlt := hmin ⟨by omega, by omega, e'', hr⟩
      omega
    | ok v => exact ⟨v, rfl⟩
  obtain ⟨base, hbase, hfault⟩ := stepFault_of_first top path ss hp j _ problem hs hok hcut
  subst hfail
  refine ⟨j + 1, ss[j], base, ⟨⟨⟨hpos, hle, _, he'⟩, hmin⟩, hs, hbase, ⟨_, he', ?_⟩, fun i n => ?_,
    fun key kind => ?_, fun hb hl => ?_⟩⟩
  · rw [Problem.failure_withPath, Problem.withPath_withPath,
      withPath_of_walk path top ss problem hwalk]
  · rw [Problem.failure_inj, hfault.outOfBounds_iff]
  · rw [Problem.failure_inj, hfault.leaf_iff, Nat.lt_add_left_iff_pos]
  · simp only [ne_eq, Problem.failure_inj] at hb hl ⊢
    exact hfault.otherwise hb hl

/-- A path that is followed to some point has stood on objects up to there, and one that fails does
so by its first segment that cannot be followed, whatever comes after. -/
theorem resolve_first_failure (top : Value.Entries) (path : String) (ss : List Segment)
    (hp : parse path = .ok ss) :
    (∀ i j, 0 < i → i < j → j ≤ ss.length → (∃ v, resolve top (upTo path j) = .ok v) →
      ∃ w, resolve top (upTo path i) = .ok w ∧ w.kind = .object) ∧
    (∀ e, resolve top path = .error e → ∃ f s base, FailsAt top path ss e f s base) ∧
    ∀ s ∈ ss, ∀ i ∈ s.index, ¬ i < 0 := by
  refine ⟨fun i j hi hij hj ⟨v, hv⟩ => ?_, exists_failsAt top path ss hp, fun s hs i hi => ?_⟩
  · obtain ⟨k, rfl⟩ : ∃ k, j = i + k + 1 := ⟨j - i - 1, by omega⟩
    rw [resolve_upTo_ok top path ss hp _ (by omega)] at hv
    obtain ⟨w, hw, hk⟩ := walk_take_ok path top ss i k v hi hj hv
    exact ⟨w, (resolve_upTo_ok top path ss hp i hi w).2 hw, hk⟩
  · have hnonneg := index_nonneg s (proper_of_parse path ss hp s hs) i hi
    omega

theorem resolve_first_failure_on_leaf :
    parse "a.s#0.z" = .ok [⟨"a", none⟩, ⟨"s", some 0⟩, ⟨"z", none⟩] ∧
      resolve [(.text "a", .fields [("s", .text "x")])] "a.s#0.z" =
        .error (Problem.indexOnNonContainer "s" .string).failure ∧
      ∃ f s base, FailsAt [(.text "a", .fields [("s", .text "x")])] "a.s#0.z"
        [⟨"a", none⟩, ⟨"s", some 0⟩, ⟨"z", none⟩]
        (Problem.indexOnNonContainer "s" .string).failure f s base := by
  have hp : parse "a.s#0.z" = .ok [⟨"a", none⟩, ⟨"s", some 0⟩, ⟨"z", none⟩] := by cbv
  have he : resolve [(.text "a", .fields [("s", .text "x")])] "a.s#0.z" =
      .error (Problem.indexOnNonContainer "s" .string).failure := by cbv
  exact ⟨hp, he, (resolve_first_failure _ _ _ hp).2.1 _ he⟩

end DotPath.Path

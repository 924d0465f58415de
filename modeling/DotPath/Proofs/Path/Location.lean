import DotPath.Proofs.Path.Walk

set_option autoImplicit false

/-!
Locations: places in a document, each step a key of a mapping with the index of an element of the
sequence under it. A path leads to what is at the location that it writes; and every path that
leads somewhere leads to a location, with the indices left out that do not stand on a sequence.
-/

namespace DotPath

open Number Text

namespace Value

/-- The element of a sequence with the given number. -/
def item? (v : Value) (i : Int) : Option Value :=
  v.items?.bind fun items => if 0 ≤ i then items[i.toNat]? else none

/-- The value that a step reaches from a mapping. -/
def step? (base : Value) (s : Segment) : Option Value :=
  (base.under? s.key).bind fun target =>
    match s.index with
    | none => some target
    | some i => target.item? i

/-- The value that steps reach one after the other. -/
def at? : Value → List Segment → Option Value
  | v, [] => some v
  | v, s :: ss => (v.step? s).bind (·.at? ss)

end Value

/-- A place in a document. -/
structure Location where
  steps : List Segment
  ne_nil : steps ≠ []
  proper : ∀ s ∈ steps, s.Proper

/-- The value at a place in a document. -/
def Location.value? (l : Location) (top : Value.Entries) : Option Value :=
  (Value.mapping top).at? l.steps

/-- The segment as a step on to `target`: its index counts only on a sequence. -/
def Segment.on (s : Segment) (target : Value) : Segment :=
  if target.kind = .sequence then s else { s with index := none }

@[simp] theorem Segment.on_key (s : Segment) (target : Value) : (s.on target).key = s.key := by
  unfold on
  split <;> rfl

theorem Segment.Proper.on (s : Segment) (target : Value) (h : s.Proper) : (s.on target).Proper := by
  unfold Segment.on
  split
  · exact h
  · exact ⟨h.key, by simp⟩

namespace Path

/-- From `v`, with `before` segments of the path behind, the steps are the segments less every
index that does not stand on a sequence; and such an index, but for one of the first segment of
the path, stands on an object. -/
structure Settles (before : Nat) (v : Value) (segments steps : List Segment) : Prop where
  length : steps.length = segments.length
  step : ∀ j s, segments[j]? = some s → ∃ base target,
    v.at? (steps.take j) = some base ∧ base.under? s.key = some target ∧
      steps[j]? = some (s.on target) ∧
      (0 < before + j → s.index.isSome → target.kind ≠ .sequence → target.kind = .object)

theorem element_eq_ok_iff (items : List Value) (i : Int) (v : Value) :
    element items i = .ok v ↔ 0 ≤ i ∧ items[i.toNat]? = some v := by
  rw [element]
  split
  next h =>
    have hnone : 0 ≤ i → items[i.toNat]? = none := fun hi => List.getElem?_eq_none (by omega)
    simp only [reduceCtorEq, false_iff, not_and]
    exact fun hi => by simp [hnone hi]
  next h =>
    have hlt : i.toNat < items.length := by omega
    have hi : 0 ≤ i := by omega
    simp [hi, List.getElem?_eq_getElem hlt]

/-- An index is picked as a step of a location is taken, less an index that does not count. -/
theorem pick_eq_ok_iff (base target v : Value) (s : Segment)
    (hu : base.under? s.key = some target) :
    pick target s.index = .ok v ↔ base.step? (s.on target) = some v := by
  rw [Value.step?, Segment.on_key, hu, Option.bind_some]
  by_cases hk : target.kind = .sequence
  · obtain ⟨items, hitems⟩ := target.exists_items? hk
    rw [Segment.on, if_pos hk]
    cases hi : s.index with
    | none => simp [pick_none]
    | some i =>
      change pick target (some i) = .ok v ↔ target.item? i = some v
      rw [pick_of_items? target items i hitems, element_eq_ok_iff, Value.item?, hitems]
      by_cases h0 : 0 ≤ i <;> simp [h0]
  · rw [Segment.on, if_neg hk, pick_of_not_sequence target _ hk]
    simp

theorem exists_under?_of_step? (base v : Value) (s : Segment) (h : base.step? s = some v) :
    ∃ target, base.under? s.key = some target ∧ s.on target = s ∧
      (s.index.isSome → target.kind = .sequence) := by
  obtain ⟨target, hu, ht⟩ := Option.bind_eq_some_iff.1 h
  refine ⟨target, hu, ?_⟩
  cases hi : s.index with
  | none =>
    obtain ⟨key, index⟩ := s
    cases hi
    exact ⟨by simp [Segment.on], by simp⟩
  | some i =>
    rw [hi] at ht
    obtain ⟨items, hitems, -⟩ := Option.bind_eq_some_iff.1 ht
    have hk := target.kind_eq_sequence items hitems
    exact ⟨by rw [Segment.on, if_pos hk], fun _ => hk⟩

section Walks

variable (path : String)

theorem enterTop_eq_ok_iff (top : Value.Entries) (s : Segment) (v : Value) :
    enterTop path top s = .ok v ↔ ∃ target,
      (Value.mapping top).under? s.key = some target ∧
        (Value.mapping top).step? (s.on target) = some v := by
  cases hu : (Value.mapping top).under? s.key with
  | none => simp [enterTop_missing path top s hu]
  | some target =>
    rw [enterTop_found path top s target hu, pick_eq_ok_iff _ target v s hu]
    simp

theorem enter_eq_ok_iff (base v : Value) (s : Segment) :
    enter path base s = .ok v ↔ ∃ target,
      base.under? s.key = some target ∧ base.step? (s.on target) = some v ∧
        (s.index.isSome → target.kind ≠ .sequence → target.kind = .object) := by
  by_cases hb : base.kind = .object
  · cases hu : base.under? s.key with
    | none => simp [enter_missing path base s hb hu]
    | some target =>
      by_cases hleaf : s.index.isSome ∧ target.kind.isContainer = false
      · have hno := target.not_container hleaf.2
        rw [enter_leaf path base s target hu hleaf.1 hleaf.2]
        simp [hleaf.1, hno.1, hno.2]
      · have hcontainer : s.index.isSome → target.kind ≠ .sequence → target.kind = .object := by
          intro hi hk
          by_contra ho
          exact hleaf ⟨hi, target.isContainer_eq_false hk ho⟩
        rw [enter_found path base s target hu hleaf, pick_eq_ok_iff _ target v s hu]
        simpa using fun _ => hcontainer
  · have hu := base.under?_eq_none s.key (base.entries?_eq_none hb)
    simp [enter_no_keys path base s hb, hu]

theorem enterTop_of_step? (top : Value.Entries) (s : Segment) (v : Value)
    (h : (Value.mapping top).step? s = some v) : enterTop path top s = .ok v := by
  obtain ⟨target, hu, hon, -⟩ := exists_under?_of_step? _ v s h
  exact (enterTop_eq_ok_iff path top s v).2 ⟨target, hu, by rwa [hon]⟩

theorem enter_of_step? (base v : Value) (s : Segment) (h : base.step? s = some v) :
    enter path base s = .ok v := by
  obtain ⟨target, hu, hon, hk⟩ := exists_under?_of_step? base v s h
  exact (enter_eq_ok_iff path base v s).2
    ⟨target, hu, by rwa [hon], fun hi hns => absurd (hk hi) hns⟩

theorem follow_of_at? (v w : Value) (ss : List Segment) (h : v.at? ss = some w) :
    follow path v ss = .ok w := by
  induction ss generalizing v with
  | nil => simpa [Value.at?] using h
  | cons s ss ih =>
    obtain ⟨u, hu, hw⟩ := Option.bind_eq_some_iff.1 h
    rw [follow_cons, enter_of_step? path v u s hu]
    exact ih u hw

theorem walk_of_at? (top : Value.Entries) (w : Value) (ss : List Segment)
    (h : (Value.mapping top).at? ss = some w) : walk path top ss = .ok w := by
  cases ss with
  | nil => simpa [Value.at?, walk] using h
  | cons s ss =>
    obtain ⟨u, hu, hw⟩ := Option.bind_eq_some_iff.1 h
    rw [walk, enterTop_of_step? path top s u hu]
    exact follow_of_at? path u w ss hw

theorem Settles.nil (before : Nat) (v : Value) : Settles before v [] [] := ⟨rfl, by simp⟩

theorem Settles.cons (before : Nat) (base target w : Value) (s : Segment)
    (ss steps : List Segment) (hu : base.under? s.key = some target)
    (hw : base.step? (s.on target) = some w)
    (hk : 0 < before → s.index.isSome → target.kind ≠ .sequence → target.kind = .object)
    (h : Settles (before + 1) w ss steps) :
    Settles before base (s :: ss) (s.on target :: steps) := by
  refine ⟨by simp [h.length], fun j s' hs' => ?_⟩
  cases j with
  | zero =>
    cases hs'
    exact ⟨base, target, rfl, hu, rfl, by simpa using hk⟩
  | succ j =>
    obtain ⟨base', target', hbase, hu', hstep, hk'⟩ := h.step j s' hs'
    refine ⟨base', target', ?_, hu', hstep, fun _ => hk' (by omega)⟩
    rw [List.take_succ_cons, Value.at?, hw]
    exact hbase

theorem exists_settles_of_follow (before : Nat) (v w : Value) (ss : List Segment)
    (h : follow path v ss = .ok w) : ∃ steps, v.at? steps = some w ∧ Settles before v ss steps := by
  induction ss generalizing before v with
  | nil => exact ⟨[], by simpa [Value.at?] using h, Settles.nil before v⟩
  | cons s ss ih =>
    rw [follow_cons] at h
    cases he : enter path v s with
    | error problem => simp [he, bind, Except.bind] at h
    | ok u =>
      rw [he] at h
      obtain ⟨target, hu, hstep, hk⟩ := (enter_eq_ok_iff path v u s).1 he
      obtain ⟨steps, hat, hsettles⟩ := ih (before + 1) u h
      exact ⟨s.on target :: steps, by rw [Value.at?, hstep]; exact hat,
        hsettles.cons before v target u s ss steps hu hstep fun _ => hk⟩

theorem exists_settles_of_walk (top : Value.Entries) (w : Value) (ss : List Segment)
    (h : walk path top ss = .ok w) :
    ∃ steps, (Value.mapping top).at? steps = some w ∧ Settles 0 (.mapping top) ss steps := by
  cases ss with
  | nil => exact ⟨[], by simpa [Value.at?, walk] using h, Settles.nil 0 _⟩
  | cons s ss =>
    rw [walk] at h
    cases he : enterTop path top s with
    | error problem => simp [he, bind, Except.bind] at h
    | ok u =>
      rw [he] at h
      obtain ⟨target, hu, hstep⟩ := (enterTop_eq_ok_iff path top s u).1 he
      obtain ⟨steps, hat, hsettles⟩ := exists_settles_of_follow path 1 u w ss h
      exact ⟨s.on target :: steps, by rw [Value.at?, hstep]; exact hat,
        hsettles.cons 0 _ target u s ss steps hu hstep (by simp)⟩

end Walks

theorem Settles.proper (before : Nat) (v : Value) (ss steps : List Segment)
    (h : Settles before v ss steps) (hss : ∀ s ∈ ss, s.Proper) : ∀ s ∈ steps, s.Proper := by
  intro step hmem
  obtain ⟨j, hj⟩ := List.getElem?_of_mem hmem
  have hlt : j < ss.length := h.length ▸ (List.getElem?_eq_some_iff.1 hj).1
  obtain ⟨base, target, -, -, hstep, -⟩ := h.step j ss[j] (List.getElem?_eq_getElem hlt)
  rw [hj] at hstep
  cases hstep
  exact Segment.Proper.on _ target (hss _ (List.getElem_mem hlt))

/-- A path is followed to the value at the location that it writes; and if a path is followed to
some value, it is the value at the location of its segments less the indices that do not count. -/
theorem resolve_locations (top : Value.Entries) :
    (∀ (l : Location) (v : Value), l.value? top = some v → resolve top (render l.steps) = .ok v) ∧
    ∀ (path : String) (v : Value), resolve top path = .ok v →
      ∃ (segments : List Segment) (l : Location), parse path = .ok segments ∧
        l.value? top = some v ∧ Settles 0 (.mapping top) segments l.steps := by
  constructor
  · intro l v h
    exact (resolve_eq_ok_iff top _ v).2
      ⟨l.steps, parse_render l.steps l.ne_nil l.proper, walk_of_at? _ top v l.steps h⟩
  · intro path v h
    obtain ⟨ss, hp, hw⟩ := (resolve_eq_ok_iff top path v).1 h
    obtain ⟨steps, hat, hsettles⟩ := exists_settles_of_walk path top v ss hw
    have hne : steps ≠ [] := by
      rintro rfl
      exact parse_ne_nil path ss hp (List.length_eq_zero_iff.1 hsettles.length.symm)
    exact ⟨ss, ⟨steps, hne, hsettles.proper 0 _ ss steps (proper_of_parse path ss hp)⟩, hp, hat,
      hsettles⟩

/-- The location of an element of a sequence in a mapping, and a path to it with an index that does
not count. -/
theorem resolve_locations_nested_index :
    let top : Value.Entries :=
      [(.text "a", .fields [("b", .list [.int 1, .fields [("c", .int 7)]])])]
    let steps : List Segment := [⟨"a", none⟩, ⟨"b", some 1⟩, ⟨"c", none⟩]
    render steps = "a.b#1.c" ∧ resolve top "a.b#1.c" = .ok (.int 7) ∧
      resolve top "a#3.b#1.c" = .ok (.int 7) ∧
      ∃ (segments : List Segment) (l : Location), parse "a#3.b#1.c" = .ok segments ∧
        l.value? top = some (.int 7) ∧ Settles 0 (.mapping top) segments l.steps := by
  intro top steps
  have hproper : ∀ s ∈ steps, s.Proper := proper_of_parse "a.b#1.c" steps (by cbv)
  have hrender : render steps = "a.b#1.c" := by cbv
  have hvalue : (Value.mapping top).at? steps = some (.int 7) := by cbv
  have hpath : resolve top "a#3.b#1.c" = .ok (.int 7) := by cbv
  refine ⟨hrender, ?_, hpath, (resolve_locations top).2 "a#3.b#1.c" _ hpath⟩
  rw [← hrender]
  exact (resolve_locations top).1 ⟨steps, by simp [steps], hproper⟩ _ hvalue

end Path

end DotPath

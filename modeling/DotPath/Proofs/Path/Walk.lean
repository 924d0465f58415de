import DotPath.Path.Resolve
import DotPath.Proofs.Path.Parse

set_option autoImplicit false

/-!
One segment of a path after the other. The first segment and the later ones look up the same thing,
`Value.under?`; they differ in what they say of a key that is missing and of an index on a leaf.
The text of the path stands in problems only, so a walk does not depend on it otherwise.
-/

namespace DotPath

open Text

namespace Value

/-- What stands under a key in a mapping. -/
def under? (base : Value) (key : String) : Option Value :=
  base.entries?.bind (Table.get? · (.text key))

theorem isNull_of_entries? (v : Value) (m : Entries) (h : v.entries? = some m) :
    v.isNull = false := by
  cases v with
  | scalar s => simp [entries?, opened] at h
  | _ => rfl

theorem under?_of_entries? (v : Value) (m : Entries) (h : v.entries? = some m) (key : String) :
    v.under? key = Table.get? m (.text key) := by simp [under?, h]

theorem under?_eq_none (v : Value) (key : String) (h : v.entries? = none) :
    v.under? key = none := by simp [under?, h]

theorem entries?_of_under? (v u : Value) (key : String) (h : v.under? key = some u) :
    ∃ m, v.entries? = some m := by
  cases hm : v.entries? with
  | none => simp [under?, hm] at h
  | some m => exact ⟨m, rfl⟩

theorem exists_entries? (v : Value) (h : v.kind = .object) : ∃ m, v.entries? = some m :=
  Option.isSome_iff_exists.1 (v.kind_eq_object_iff.1 h)

theorem entries?_eq_none (v : Value) (h : v.kind ≠ .object) : v.entries? = none := by
  rw [Ne, kind_eq_object_iff] at h
  simpa using h

theorem items?_eq_none (v : Value) (h : v.kind ≠ .sequence) : v.items? = none := by
  rw [Ne, kind_eq_sequence_iff] at h
  simpa using h

theorem exists_items? (v : Value) (h : v.kind = .sequence) : ∃ items, v.items? = some items :=
  Option.isSome_iff_exists.1 (v.kind_eq_sequence_iff.1 h)

theorem kind_eq_sequence (v : Value) (items : List Value) (h : v.items? = some items) :
    v.kind = .sequence := v.kind_eq_sequence_iff.2 (by simp [h])

theorem not_container (v : Value) (h : v.kind.isContainer = false) :
    v.kind ≠ .sequence ∧ v.kind ≠ .object := by
  constructor <;> intro hk <;> simp [hk, Kind.isContainer] at h

theorem isContainer_eq_false (v : Value) (hs : v.kind ≠ .sequence) (ho : v.kind ≠ .object) :
    v.kind.isContainer = false := by
  cases hk : v.kind <;> simp_all [Kind.isContainer]

end Value

/-- The problem with another path in its details. -/
def Problem.withPath (path : String) : Problem → Problem
  | .valueNotFound key _ reason => .valueNotFound key path reason
  | p => p

/-- The failure with another path in its details. -/
def Failure.withPath (path : String) : Failure → Failure
  | .problem p cause => .problem (p.withPath path) cause
  | f => f

theorem Problem.withPath_withPath (p : Problem) (a b : String) :
    (p.withPath a).withPath b = p.withPath b := by
  cases p <;> rfl

theorem Problem.failure_withPath (p : Problem) (path : String) :
    p.failure.withPath path = (p.withPath path).failure := rfl

@[simp] theorem Problem.failure_inj (p q : Problem) : p.failure = q.failure ↔ p = q := by
  simp [Problem.failure]

namespace Path

theorem pick_none (v : Value) : pick v none = .ok v := rfl

theorem pick_of_items? (v : Value) (items : List Value) (i : Int) (h : v.items? = some items) :
    pick v (some i) = element items i := by simp [pick, h]

theorem pick_of_not_sequence (v : Value) (index : Option Int) (h : v.kind ≠ .sequence) :
    pick v index = .ok v := by
  cases index <;> simp [pick, v.items?_eq_none h]

/-- Said of a value that has no keys. -/
def lack (v : Value) : String := if v.isNull then nothingThere else v.kind.name ++ " has no keys"

section Steps

variable (path : String)

theorem enterTop_missing (top : Value.Entries) (s : Segment)
    (h : (Value.mapping top).under? s.key = none) :
    enterTop path top s = .error (.valueNotFound s.key path nothingThere) := by
  rw [Value.under?_of_entries? _ top rfl] at h
  simp [enterTop, h]

theorem enterTop_found (top : Value.Entries) (s : Segment) (target : Value)
    (h : (Value.mapping top).under? s.key = some target) :
    enterTop path top s = pick target s.index := by
  rw [Value.under?_of_entries? _ top rfl] at h
  simp [enterTop, h]

theorem enter_no_keys (v : Value) (s : Segment) (h : v.kind ≠ .object) :
    enter path v s = .error (.valueNotFound s.key path (lack v)) := by
  by_cases hn : v.isNull
  · simp [enter, lack, hn]
  · simp [enter, lack, hn, v.entries?_eq_none h]

theorem enter_missing (v : Value) (s : Segment) (hv : v.kind = .object)
    (h : v.under? s.key = none) :
    enter path v s = .error (.valueNotFound s.key path "key is missing") := by
  obtain ⟨m, hm⟩ := v.exists_entries? hv
  rw [Value.under?_of_entries? v m hm] at h
  simp [enter, v.isNull_of_entries? m hm, hm, h]

theorem enter_leaf (v : Value) (s : Segment) (target : Value) (h : v.under? s.key = some target)
    (hi : s.index.isSome) (hk : target.kind.isContainer = false) :
    enter path v s = .error (.indexOnNonContainer s.key target.kind) := by
  obtain ⟨m, hm⟩ := v.entries?_of_under? target s.key h
  rw [Value.under?_of_entries? v m hm] at h
  simp [enter, v.isNull_of_entries? m hm, hm, h, hi, hk]

theorem enter_found (v : Value) (s : Segment) (target : Value) (h : v.under? s.key = some target)
    (hs : ¬ (s.index.isSome ∧ target.kind.isContainer = false)) :
    enter path v s = pick target s.index := by
  obtain ⟨m, hm⟩ := v.entries?_of_under? target s.key h
  rw [Value.under?_of_entries? v m hm] at h
  have hc : (s.index.isSome && !target.kind.isContainer) = false := by simpa using hs
  simp [enter, v.isNull_of_entries? m hm, hm, h, hc]

theorem pick_withPath (v : Value) (index : Option Int) :
    (pick v index).mapError (Problem.withPath path) = pick v index := by
  unfold pick
  split
  · rw [element]
    split <;> rfl
  · rfl

variable (other : String)

theorem enterTop_withPath (top : Value.Entries) (s : Segment) :
    (enterTop path top s).mapError (Problem.withPath other) = enterTop other top s := by
  cases h : (Value.mapping top).under? s.key with
  | none =>
    rw [enterTop_missing path top s h, enterTop_missing other top s h]
    rfl
  | some target =>
    rw [enterTop_found path top s target h, enterTop_found other top s target h, pick_withPath]

theorem enter_withPath (v : Value) (s : Segment) :
    (enter path v s).mapError (Problem.withPath other) = enter other v s := by
  by_cases hv : v.kind = .object
  · cases h : v.under? s.key with
    | none =>
      rw [enter_missing path v s hv h, enter_missing other v s hv h]
      rfl
    | some target =>
      by_cases hs : s.index.isSome ∧ target.kind.isContainer = false
      · rw [enter_leaf path v s target h hs.1 hs.2, enter_leaf other v s target h hs.1 hs.2]
        rfl
      · rw [enter_found path v s target h hs, enter_found other v s target h hs, pick_withPath]
  · rw [enter_no_keys path v s hv, enter_no_keys other v s hv]
    rfl

@[simp] theorem follow_nil (v : Value) : follow path v [] = .ok v := rfl

theorem follow_cons (v : Value) (s : Segment) (ss : List Segment) :
    follow path v (s :: ss) = enter path v s >>= (follow path · ss) := by
  rw [follow, List.foldlM_cons]
  rfl

theorem follow_withPath (v : Value) (ss : List Segment) :
    (follow path v ss).mapError (Problem.withPath other) = follow other v ss := by
  induction ss generalizing v with
  | nil => rfl
  | cons s ss ih =>
    rw [follow_cons, follow_cons, ← enter_withPath path other v s]
    cases enter path v s with
    | error p => rfl
    | ok w => exact ih w

theorem walk_withPath (top : Value.Entries) (ss : List Segment) :
    (walk path top ss).mapError (Problem.withPath other) = walk other top ss := by
  cases ss with
  | nil => rfl
  | cons s ss =>
    rw [walk, walk, ← enterTop_withPath path other top s]
    cases enterTop path top s with
    | error p => rfl
    | ok v => exact follow_withPath path other v ss

theorem walk_append (top : Value.Entries) (ss ts : List Segment) (h : ss ≠ []) :
    walk path top (ss ++ ts) = walk path top ss >>= (follow path · ts) := by
  obtain ⟨s, ss, rfl⟩ := List.exists_cons_of_ne_nil h
  rw [List.cons_append, walk, walk, bind_assoc]
  congr 1
  funext v
  exact List.foldlM_append

end Steps

theorem resolve_of_parse (top : Value.Entries) (path : String) (ss : List Segment)
    (h : parse path = .ok ss) :
    resolve top path = (walk path top ss).mapError Problem.failure := by
  rw [resolve, h]
  rfl

/-- A path that cannot be read is not read in anything. -/
theorem resolveIn_of_parse_error (v : Value) (path : String) (f : Failure)
    (h : parse path = .error f) : resolveIn v (.text path) = .error f := by
  rw [resolveIn]
  cases v.entries? with
  | some m =>
    change resolve m path = _
    rw [resolve, h]
    rfl
  | none =>
    change (parse path >>= _) = _
    rw [h]
    rfl

theorem resolve_eq_ok_iff (top : Value.Entries) (path : String) (v : Value) :
    resolve top path = .ok v ↔ ∃ ss, parse path = .ok ss ∧ walk path top ss = .ok v := by
  constructor
  · intro h
    cases hp : parse path with
    | error f => simp [resolve, hp, bind, Except.bind] at h
    | ok ss =>
      rw [resolve_of_parse top path ss hp] at h
      cases hw : walk path top ss with
      | error p => simp [hw, Except.mapError] at h
      | ok w => simpa [hw, Except.mapError] using h
  · rintro ⟨ss, hp, hw⟩
    rw [resolve_of_parse top path ss hp, hw]
    rfl

end Path

end DotPath

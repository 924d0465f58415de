import DotPath.Proofs.Path.Walk

set_option autoImplicit false

/-!
Joining two paths by a dot. Where the first path leads to an object, the second goes on as it would
from that object taken for a store. The one exception is an index on a leaf: the first segment of a
path passes over it, a later one refuses it.
-/

namespace DotPath.Path

open Text

theorem resolveIn_text (v : Value) (hv : v.kind = .object) (path : String) :
    ∃ m, v.entries? = some m ∧ resolveIn v (.text path) = resolve m path := by
  obtain ⟨m, hm⟩ := v.exists_entries? hv
  exact ⟨m, hm, by rw [resolveIn, hm]; rfl⟩

theorem under?_mapping (v : Value) (m : Value.Entries) (h : v.entries? = some m) (key : String) :
    (Value.mapping m).under? key = v.under? key := by
  rw [Value.under?_of_entries? v m h, Value.under?_of_entries? _ m rfl]

/-- The second path goes on from the value of the first. -/
theorem resolve_append_eq_follow (top : Value.Entries) (p q : String) (v : Value)
    (ts : List Segment) (hp : resolve top p = .ok v) (hq : parse q = .ok ts) :
    resolve top (p ++ "." ++ q) =
      (follow (p ++ "." ++ q) v ts).mapError Problem.failure := by
  obtain ⟨ss, hss, hw⟩ := (resolve_eq_ok_iff top p v).1 hp
  have hwalk : walk (p ++ "." ++ q) top ss = .ok v := by
    rw [← walk_withPath p, hw]
    rfl
  rw [resolve_of_parse top _ _ (parse_append p q ss ts hss hq),
    walk_append _ top ss ts (parse_ne_nil p ss hss), hwalk]
  rfl

/-- An object taken for a store, its first segment split off. -/
theorem resolveIn_eq_follow (v : Value) (q : String) (t : Segment) (ts : List Segment) (u : Value)
    (hv : v.kind = .object) (hq : parse q = .ok (t :: ts)) (hu : v.under? t.key = some u) :
    resolveIn v (.text q) =
      (pick u t.index >>= (follow q · ts)).mapError Problem.failure := by
  obtain ⟨m, hm, hr⟩ := resolveIn_text v hv q
  rw [hr, resolve_of_parse m q _ hq, walk,
    enterTop_found q m t u (by rw [under?_mapping v m hm, hu])]

theorem mapError_failure_withPath (path : String) (r : Except Problem Value) :
    (r.mapError Problem.failure).mapError (Failure.withPath path) =
      (r.mapError (Problem.withPath path)).mapError Problem.failure := by
  cases r <;> rfl

theorem pick_follow_withPath (path other : String) (u : Value) (index : Option Int)
    (ts : List Segment) :
    (pick u index >>= (follow path · ts)).mapError (Problem.withPath other) =
      pick u index >>= (follow other · ts) := by
  have hp := pick_withPath other u index
  cases h : pick u index with
  | error p =>
    rw [h] at hp
    exact hp
  | ok w => exact follow_withPath path other w ts

/-- A leaf is the end of a path; what goes on from it never comes to an index. -/
theorem follow_leaf_ne (path key : String) (kind : Kind) (u : Value) (ts : List Segment)
    (hu : u.kind ≠ .object) : follow path u ts ≠ .error (.indexOnNonContainer key kind) := by
  cases ts with
  | nil => simp
  | cons t ts =>
    rw [follow_cons, enter_no_keys path u t hu]
    simp [bind, Except.bind]

section Joined

variable (top : Value.Entries) (p q : String) (v : Value) (t : Segment) (ts : List Segment)
  (hp : resolve top p = .ok v) (hq : parse q = .ok (t :: ts))

include hp hq

theorem resolve_append_no_keys (hv : v.kind ≠ .object) :
    resolve top (p ++ "." ++ q) =
      .error (Problem.valueNotFound t.key (p ++ "." ++ q) (lack v)).failure := by
  rw [resolve_append_eq_follow top p q v _ hp hq, follow_cons, enter_no_keys _ v t hv]
  rfl

theorem resolve_append_missing (hv : v.kind = .object) (hu : v.under? t.key = none) :
    resolve top (p ++ "." ++ q) =
        .error (Problem.valueNotFound t.key (p ++ "." ++ q) "key is missing").failure ∧
      resolveIn v (.text q) = .error (Problem.valueNotFound t.key q nothingThere).failure := by
  constructor
  · rw [resolve_append_eq_follow top p q v _ hp hq, follow_cons, enter_missing _ v t hv hu]
    rfl
  · obtain ⟨m, hm, hr⟩ := resolveIn_text v hv q
    rw [hr, resolve_of_parse m q _ hq, walk,
      enterTop_missing q m t (by rw [under?_mapping v m hm, hu])]
    rfl

theorem resolve_append_found (hv : v.kind = .object) (u : Value) (hu : v.under? t.key = some u)
    (hs : ¬ (t.index.isSome ∧ u.kind.isContainer = false)) :
    resolve top (p ++ "." ++ q) =
      (resolveIn v (.text q)).mapError (Failure.withPath (p ++ "." ++ q)) := by
  rw [resolve_append_eq_follow top p q v _ hp hq, follow_cons, enter_found _ v t u hu hs,
    resolveIn_eq_follow v q t ts u hv hq hu, mapError_failure_withPath, pick_follow_withPath]

theorem resolve_append_leaf (hv : v.kind = .object) (u : Value) (hu : v.under? t.key = some u)
    (hi : t.index.isSome) (hk : u.kind.isContainer = false) :
    resolve top (p ++ "." ++ q) = .error (Problem.indexOnNonContainer t.key u.kind).failure ∧
      resolveIn v (.text q) = (follow q u ts).mapError Problem.failure := by
  constructor
  · rw [resolve_append_eq_follow top p q v _ hp hq, follow_cons, enter_leaf _ v t u hu hi hk]
    rfl
  · rw [resolveIn_eq_follow v q t ts u hv hq hu, pick_of_not_sequence u _ (u.not_container hk).1]
    rfl

end Joined

/-- Two paths joined by a dot come to what the second comes to from the value of the first, up to
the text of the path and what is said of a missing key; but an index on a leaf is refused. -/
theorem resolve_append (top : Value.Entries) (p q : String) (v : Value) (t : Segment)
    (ts : List Segment) (hp : resolve top p = .ok v) (hq : parse q = .ok (t :: ts)) :
    (v.kind ≠ .object →
      resolve top (p ++ "." ++ q) =
        .error (Problem.valueNotFound t.key (p ++ "." ++ q) (lack v)).failure) ∧
    (v.kind = .object → v.under? t.key = none →
      resolve top (p ++ "." ++ q) =
          .error (Problem.valueNotFound t.key (p ++ "." ++ q) "key is missing").failure ∧
        resolveIn v (.text q) = .error (Problem.valueNotFound t.key q nothingThere).failure) ∧
    (v.kind = .object → ∀ u, v.under? t.key = some u →
      (¬ (t.index.isSome ∧ u.kind.isContainer = false) →
        resolve top (p ++ "." ++ q) =
          (resolveIn v (.text q)).mapError (Failure.withPath (p ++ "." ++ q))) ∧
      (t.index.isSome → u.kind.isContainer = false →
        resolve top (p ++ "." ++ q) = .error (Problem.indexOnNonContainer t.key u.kind).failure ∧
        resolveIn v (.text q) = (follow q u ts).mapError Problem.failure ∧
        ∀ key kind,
          resolveIn v (.text q) ≠ .error (Problem.indexOnNonContainer key kind).failure)) := by
  refine ⟨resolve_append_no_keys top p q v t ts hp hq, resolve_append_missing top p q v t ts hp hq,
    fun hv u hu => ⟨resolve_append_found top p q v t ts hp hq hv u hu, fun hi hk => ?_⟩⟩
  have hleaf := resolve_append_leaf top p q v t ts hp hq hv u hu hi hk
  refine ⟨hleaf.1, hleaf.2, fun key kind he => ?_⟩
  rw [hleaf.2] at he
  cases hf : follow q u ts with
  | error problem =>
    rw [hf] at he
    cases he
    exact follow_leaf_ne q key kind u ts (u.not_container hk).2 hf
  | ok w => simp [hf, Except.mapError] at he

theorem resolve_append_index_on_leaf :
    resolve [(.text "a", .fields [("s", .text "x")])] "a" = .ok (.fields [("s", .text "x")]) ∧
      parse "s#0" = .ok [⟨"s", some 0⟩] ∧
      resolve [(.text "a", .fields [("s", .text "x")])] "a.s#0" =
        .error (Problem.indexOnNonContainer "s" .string).failure ∧
      resolveIn (.fields [("s", .text "x")]) (.text "s#0") = .ok (.text "x") := by
  have hp : resolve [(.text "a", .fields [("s", .text "x")])] "a" =
      .ok (.fields [("s", .text "x")]) := by cbv
  have hq : parse "s#0" = .ok [⟨"s", some 0⟩] := by cbv
  have hleaf := ((resolve_append _ "a" "s#0" _ _ _ hp hq).2.2 rfl (.text "x") rfl).2 rfl rfl
  exact ⟨hp, hq, hleaf.1, hleaf.2.1⟩

end DotPath.Path

import DotPath.Proofs.Path.Walk
import DotPath.Proofs.Table

set_option autoImplicit false

/-!
Trails lead from a value to the values inside it, from a mapping to what stands under a key and
from a sequence to an element. A value that is put at the end of a trail leaves what is above it of
the same kind, with the same keys and as many elements.
-/

namespace DotPath

namespace Table

variable {κ α : Type} [BEq κ]

theorem get?_erase_of_ne [EquivBEq κ] (t : List (κ × α)) (k j : κ) (h : (k == j) = false) :
    get? (erase t k) j = get? t j := by
  induction t with
  | nil => rfl
  | cons e t ih =>
    obtain ⟨i, w⟩ := e
    cases hik : i == k with
    | true =>
      have hij : (i == j) = false := by
        rw [← h]
        exact BEq.congr_left hik
      simp [erase, get?, hik, hij]
    | false => simp [erase, get?, hik, ih]

end Table

namespace Value

/-- A way from a value to one right inside it. -/
inductive Hop where
  | key (k : Scalar)
  | item (i : Nat)
  deriving DecidableEq, Repr

abbrev Trail := List Hop

/-- The value after a hop. -/
def after? (v : Value) : Hop → Option Value
  | .key k => v.entries?.bind (Table.get? · k)
  | .item i => v.items?.bind (·[i]?)

/-- The value at the end of a trail. -/
def along? : Value → Trail → Option Value
  | v, [] => some v
  | v, h :: t => (v.after? h).bind (·.along? t)

/-- The value with another after a hop. -/
def withAfter (v : Value) (h : Hop) (u : Value) : Value :=
  match h, v.opened with
  | .key k, mapping entries => mapping (Table.put entries k u)
  | .item i, list items => list (items.set i u)
  | .item i, tuple items => tuple (items.set i u)
  | _, _ => v

/-- The value with `w` at the end of a trail that it has. -/
def withAlong (w : Value) : Trail → Value → Value
  | [], _ => w
  | h :: t, v =>
    match v.after? h with
    | some u => v.withAfter h (withAlong w t u)
    | none => v

theorem opened_of_entries? (v : Value) (m : Entries) (h : v.entries? = some m) :
    v.opened = mapping m := by
  unfold entries? at h
  split at h
  next es heq => rw [heq, Option.some.inj h]
  next => cases h

theorem opened_of_items? (v : Value) (items : List Value) (h : v.items? = some items) :
    v.opened = list items ∨ v.opened = tuple items := by
  unfold items? at h
  split at h
  next xs heq => exact .inl (heq.trans (congrArg list (Option.some.inj h)))
  next xs heq => exact .inr (heq.trans (congrArg tuple (Option.some.inj h)))
  next => cases h

/-- A value has entries or elements, not both. -/
theorem items?_of_entries? (v : Value) (m : Entries) (h : v.entries? = some m) :
    v.items? = none := by
  rw [items?, opened_of_entries? v m h]

theorem withAfter_key (v : Value) (m : Entries) (h : v.entries? = some m) (k : Scalar) (u : Value) :
    v.withAfter (.key k) u = mapping (Table.put m k u) := by
  unfold withAfter
  rw [opened_of_entries? v m h]

theorem items?_withAfter (v : Value) (items : List Value) (h : v.items? = some items) (i : Nat)
    (u : Value) : (v.withAfter (.item i) u).items? = some (items.set i u) := by
  obtain hopened | hopened := opened_of_items? v items h
  · unfold withAfter
    rw [hopened]
    rfl
  · unfold withAfter
    rw [hopened]
    rfl

theorem after?_key (v u : Value) (k : Scalar) (h : v.after? (.key k) = some u) :
    ∃ m, v.entries? = some m ∧ Table.get? m k = some u := Option.bind_eq_some_iff.1 h

theorem after?_item (v u : Value) (i : Nat) (h : v.after? (.item i) = some u) :
    ∃ items, v.items? = some items ∧ items[i]? = some u := Option.bind_eq_some_iff.1 h

/-- A value after a hop does not change the kind of what it is in. -/
theorem kind_withAfter (v u w : Value) (h : Hop) (hu : v.after? h = some u) :
    (v.withAfter h w).kind = v.kind := by
  cases h with
  | key k =>
    obtain ⟨m, hm, -⟩ := v.after?_key u k hu
    rw [withAfter_key v m hm, v.kind_eq_object_iff.2 (by simp [hm])]
    rfl
  | item i =>
    obtain ⟨items, hitems, -⟩ := v.after?_item u i hu
    rw [v.kind_eq_sequence items hitems]
    exact kind_eq_sequence _ _ (v.items?_withAfter items hitems i w)

theorem exists_after? (v : Value) (h : Hop) (t : Trail) (ht : (v.along? (h :: t)).isSome) :
    ∃ u, v.after? h = some u ∧ (u.along? t).isSome := by
  obtain ⟨w, hw⟩ := Option.isSome_iff_exists.1 ht
  obtain ⟨u, hu, hrest⟩ := Option.bind_eq_some_iff.1 hw
  exact ⟨u, hu, Option.isSome_iff_exists.2 ⟨w, hrest⟩⟩

theorem along?_append (v : Value) (s t : Trail) :
    v.along? (s ++ t) = (v.along? s).bind (·.along? t) := by
  induction s generalizing v with
  | nil => rfl
  | cons h s ih =>
    rw [List.cons_append, along?, along?, Option.bind_assoc]
    exact congrArg _ (funext ih)

theorem withAlong_cons (v u w : Value) (h : Hop) (t : Trail) (hu : v.after? h = some u) :
    withAlong w (h :: t) v = v.withAfter h (withAlong w t u) := by
  rw [withAlong, hu]

/-- A trail goes on from a mapping by a key of it. -/
theorem withAlong_mapping (top : Entries) (w : Value) (h : Hop) (t : Trail)
    (ht : ((mapping top).along? (h :: t)).isSome) :
    ∃ k u, h = .key k ∧ Table.get? top k = some u ∧ (u.along? t).isSome ∧
      withAlong w (h :: t) (mapping top) = mapping (Table.put top k (withAlong w t u)) := by
  obtain ⟨u, hu, hrest⟩ := (mapping top).exists_after? h t ht
  cases h with
  | key k =>
    refine ⟨k, u, rfl, hu, hrest, ?_⟩
    rw [withAlong_cons _ u w _ t hu, withAfter_key _ top rfl]
  | item i => cases hu

/-- The end of a trail does not change the kind of what lies above it. -/
theorem kind_withAlong (v w : Value) (t : Trail) (ht : (v.along? t).isSome) (hne : t ≠ []) :
    (withAlong w t v).kind = v.kind := by
  cases t with
  | nil => exact absurd rfl hne
  | cons h t =>
    obtain ⟨u, hu, -⟩ := v.exists_after? h t ht
    rw [withAlong_cons v u w h t hu]
    exact v.kind_withAfter u _ h hu

/-- A trail goes on in containers only. -/
theorem isContainer_of_along? (v : Value) (t : Trail) (ht : (v.along? t).isSome) (hne : t ≠ []) :
    v.kind.isContainer := by
  cases t with
  | nil => exact absurd rfl hne
  | cons h t =>
    obtain ⟨u, hu, -⟩ := v.exists_after? h t ht
    cases h with
    | key k =>
      obtain ⟨m, hm, -⟩ := v.after?_key u k hu
      rw [v.kind_eq_object_iff.2 (by simp [hm])]
      rfl
    | item i =>
      obtain ⟨items, hitems, -⟩ := v.after?_item u i hu
      rw [v.kind_eq_sequence items hitems]
      rfl

end Value

end DotPath

import DotPath.Value.Knot
import Mathlib

set_option autoImplicit false

/-!
Values and their parts: the elements of sequences and the values of mappings. A property of values
is proved from the parts of each, and what a step to a part keeps is kept at every place.
-/

namespace DotPath

theorem forall_of_forall₂ {α β : Type} {S : β → Prop} {xs : List α} {bs : List β}
    (h : List.Forall₂ (fun _ b => S b) xs bs) : ∀ b ∈ bs, S b := by
  induction h with
  | nil => simp
  | cons hb _ ih => exact List.forall_mem_cons.2 ⟨hb, ih⟩

namespace Value

/-- Induction on the parts of values, those of a list, a tuple or a mapping being given at once. -/
@[elab_as_elim]
theorem induction {motive : Value → Prop} (scalar : ∀ s, motive (scalar s))
    (list : ∀ items, (∀ v ∈ items, motive v) → motive (list items))
    (tuple : ∀ items, (∀ v ∈ items, motive v) → motive (tuple items))
    (mapping : ∀ entries, (∀ e ∈ entries, motive e.2) → motive (mapping entries))
    (set : ∀ members, motive (set members))
    (knot : ∀ label body, motive body → motive (knot label body))
    (again : ∀ label, motive (again label)) : ∀ v, motive v
  | .scalar s => scalar s
  | .list items => list items fun v _ => induction scalar list tuple mapping set knot again v
  | .tuple items => tuple items fun v _ => induction scalar list tuple mapping set knot again v
  | .mapping entries =>
    mapping entries fun e he =>
      have : sizeOf e.2 < sizeOf entries :=
        Nat.lt_of_le_of_lt (by cases e; simp) (List.sizeOf_lt_of_mem he)
      induction scalar list tuple mapping set knot again e.2
  | .set members => set members
  | .knot label body => knot label body (induction scalar list tuple mapping set knot again body)
  | .again label => again label

/-- The values right in a value. -/
def parts (v : Value) : List Value := v.items?.getD [] ++ (v.entries?.getD []).map (·.2)

@[simp] theorem parts_list (items : List Value) : (list items).parts = items :=
  List.append_nil items

@[simp] theorem parts_mapping (entries : Entries) : (mapping entries).parts = entries.map (·.2) :=
  rfl

/-- The value at a place, each number telling the next part; what is gone through has to be of the
given sort. -/
def part? (through : Value → Bool) : Value → List Nat → Option Value
  | v, [] => some v
  | v, i :: place => if through v then v.parts[i]?.bind (part? through · place) else none

theorem part?_cons (through : Value → Bool) (v w : Value) (i : Nat) (place : List Nat)
    (h : v.part? through (i :: place) = some w) :
    through v ∧ ∃ u ∈ v.parts, u.part? through place = some w := by
  rw [part?] at h
  split at h
  next hv =>
    obtain ⟨u, hu, hw⟩ := Option.bind_eq_some_iff.1 h
    exact ⟨hv, u, List.mem_of_getElem? hu, hw⟩
  next => cases h

/-- What holds of a value and goes over to parts holds at every place. -/
theorem part?_keeps (through : Value → Bool) (P : Value → Prop)
    (step : ∀ v, P v → through v → ∀ u ∈ v.parts, P u) (v w : Value) (place : List Nat) (hv : P v)
    (h : v.part? through place = some w) : P w := by
  induction place generalizing v with
  | nil =>
    obtain rfl := Option.some.inj h
    exact hv
  | cons i place ih =>
    obtain ⟨hthrough, u, hu, hw⟩ := part?_cons through v w i place h
    exact ih u (step v hv hthrough u hu) hw

section Knots

variable (knots : List (Nat × Value))

theorem loosenedItems_eq (vs : List Value) :
    loosenedItems knots vs = vs.map (loosenedIn knots) := by
  induction vs with
  | nil => rfl
  | cons v vs ih => simp [loosenedItems, ih]

theorem loosenedEntries_eq (es : Entries) :
    loosenedEntries knots es = es.map fun e => (e.1, e.2.loosenedIn knots) := by
  induction es with
  | nil => rfl
  | cons e es ih => simp [loosenedEntries, ih]

/-- A value without labels is left as it is. -/
theorem tieAll_eq_self (v : Value) (h : ∀ label k, tie label k v = v) : v.tieAll knots = v := by
  induction knots with
  | nil => rfl
  | cons k knots ih =>
    rw [tieAll, List.foldl_cons, h]
    exact ih

theorem exists_tieAll_tuple (items : List Value) :
    ∃ items', (tuple items).tieAll knots = tuple items' := by
  induction knots generalizing items with
  | nil => exact ⟨items, rfl⟩
  | cons k knots ih => exact ih (tieItems k.1 k.2 items)

end Knots

end Value

end DotPath

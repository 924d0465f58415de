import DotPath.Proofs.Value.Parts
import DotPath.Store.Source

set_option autoImplicit false

/-!
What is in the places of a memory: an object stays as it is when another place is written to, and
when a new object is added. What is in a value depends on the objects alone that it reaches.
-/

namespace DotPath

namespace Value

theorem fillItems_eq (f : Nat → Value) (vs : List Value) : fillItems f vs = vs.map (fill f) := by
  induction vs with
  | nil => rfl
  | cons v vs ih => rw [fillItems, ih, List.map_cons]

theorem fillEntries_eq (f : Nat → Value) (es : Entries) :
    fillEntries f es = es.map fun e => (e.1, e.2.fill f) := by
  induction es with
  | nil => rfl
  | cons e es ih => rw [fillEntries, ih, List.map_cons]

theorem mem_itemsLabels_iff (vs : List Value) (label : Nat) :
    label ∈ itemsLabels vs ↔ ∃ v ∈ vs, label ∈ v.labels := by
  induction vs with
  | nil => simp [itemsLabels]
  | cons v vs ih => simp [itemsLabels, ih]

theorem mem_entriesLabels_iff (es : Entries) (label : Nat) :
    label ∈ entriesLabels es ↔ ∃ e ∈ es, label ∈ e.2.labels := by
  induction es with
  | nil => simp [entriesLabels]
  | cons e es ih => simp [entriesLabels, ih]

/-- Only what is given for the labels of a value is put into it. -/
theorem fill_congr (v : Value) (f g : Nat → Value) (h : ∀ label ∈ v.labels, f label = g label) :
    v.fill f = v.fill g := by
  induction v using Value.induction generalizing f g with
  | scalar s => rfl
  | set members => rfl
  | list items ih =>
    have hitems : ∀ u ∈ items, u.fill f = u.fill g := fun u hu =>
      ih u hu f g fun label hlabel => h label ((mem_itemsLabels_iff items label).2 ⟨u, hu, hlabel⟩)
    rw [fill, fill, fillItems_eq, fillItems_eq, List.map_congr_left hitems]
  | tuple items ih =>
    have hitems : ∀ u ∈ items, u.fill f = u.fill g := fun u hu =>
      ih u hu f g fun label hlabel => h label ((mem_itemsLabels_iff items label).2 ⟨u, hu, hlabel⟩)
    rw [fill, fill, fillItems_eq, fillItems_eq, List.map_congr_left hitems]
  | mapping es ih =>
    have hentries : ∀ e ∈ es, (e.1, e.2.fill f) = (e.1, e.2.fill g) := fun e he =>
      congrArg (e.1, ·) (ih e he f g fun label hlabel =>
        h label ((mem_entriesLabels_iff es label).2 ⟨e, he, hlabel⟩))
    rw [fill, fill, fillEntries_eq, fillEntries_eq, List.map_congr_left hentries]
  | knot own body ih =>
    rw [fill, fill]
    refine congrArg (knot own) (ih _ _ fun label hlabel => ?_)
    -- The label of the knot itself is not one that is filled.
    by_cases hown : label = own
    · rw [if_pos hown, if_pos hown]
    · rw [if_neg hown, if_neg hown]
      exact h label (List.mem_filter.2 ⟨hlabel, decide_eq_true hown⟩)
  | again label => exact h label (List.mem_singleton_self label)

end Value

namespace Memory

section Places

variable (m : Memory) (place : Nat) (object : Source)

theorem read_write_self (h : place < m.objects.length) :
    (m.write place object).read place = object := by
  simp [read, write, h]

theorem read_write_of_ne {other : Nat} (h : place ≠ other) :
    (m.write place object).read other = m.read other := by
  simp [read, write, h]

@[simp] theorem length_write : (m.write place object).objects.length = m.objects.length := by
  simp [write]

@[simp] theorem length_add : (m.add object).2.objects.length = m.objects.length + 1 := by
  simp [add]

@[simp] theorem read_add_self : (m.add object).2.read (m.add object).1 = object := by
  simp [read, add]

theorem read_add_of_ne (h : place ≠ m.objects.length) :
    (m.add object).2.read place = m.read place := by
  obtain hlt | hgt := Nat.lt_or_gt_of_ne h
  · simp [read, add, List.getElem?_append_left hlt]
  · have hadded : (m.objects ++ [object])[place]? = none :=
      List.getElem?_eq_none (by simpa using hgt)
    simp [read, add, hadded, Nat.le_of_lt hgt]

end Places

/-- The value holds the object in a place, or it holds one that reaches it. -/
inductive Reaches (m : Memory) : Value → Nat → Prop where
  | here (v : Value) (place : Nat) (h : place ∈ v.labels) : Reaches m v place
  | through (v : Value) (other place : Nat) (h : other ∈ v.labels)
    (hother : Reaches m (m.read other).content place) : Reaches m v place

/-- A value reaches no more than it holds, if the objects that it holds do not hold any. -/
theorem Reaches.mem_labels {m : Memory} {v : Value} {place : Nat} (h : m.Reaches v place)
    (hheld : ∀ other ∈ v.labels, (m.read other).content.labels = []) : place ∈ v.labels := by
  cases h with
  | here _ _ hmem => exact hmem
  | through _ other _ hother hreaches =>
    have hnone := hheld other hother
    cases hreaches with
    | here _ _ hmem => simp [hnone] at hmem
    | through _ _ _ hmem => simp [hnone] at hmem

/-- Two memories with the same objects where a value reaches have the same in it. -/
theorem contents_congr (m m' : Memory) (depth : Nat) (v : Value)
    (h : ∀ place, m.Reaches v place → m'.read place = m.read place) :
    m'.contents depth v = m.contents depth v := by
  induction depth generalizing v with
  | zero => rfl
  | succ depth ih =>
    refine Value.fill_congr v _ _ fun place hplace => ?_
    rw [h place (.here v place hplace)]
    exact ih _ fun other hother => h other (.through v place other hplace hother)

end Memory

end DotPath

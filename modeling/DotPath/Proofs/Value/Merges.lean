import DotPath.Proofs.Table.Merged
import DotPath.Proofs.Value.Trail
import DotPath.Proofs.Yaml.Tree

set_option autoImplicit false

/-!
Values in which no key of a mapping comes twice. To turn keys into texts, to open knots and to go to
parts leaves them such. Where keys did come again, in a value as it was written, they are merged at
every depth.
-/

namespace DotPath.Value

/-- In every mapping at any place the keys are distinct, as one looks at it turn by turn. -/
def KeysDistinct (v : Value) : Prop :=
  ∀ place w entries, v.part? (fun _ => true) place = some w → w.entries? = some entries →
    Table.Distinct entries

/-- One value comes of another by merging: in every mapping that mappings and lists lead to, the
entries that were written have been put under their keys one after the other, and each key has its
first place and its last value. All else is kept. -/
inductive Merges (key : Scalar → Scalar) : Value → Value → Prop where
  | leaf (v : Value) (hmapping : ∀ es, v ≠ mapping es) (hlist : ∀ items, v ≠ list items) :
    Merges key v v
  | list (items items' : List Value) (h : List.Forall₂ (Merges key) items items') :
    Merges key (list items) (list items')
  | mapping (es written es' : Entries)
    (hkeys : Table.keys written = (Table.keys es).map key)
    (h : List.Forall₂ (fun e d => Merges key e.2 d.2) es written)
    (hmerged : Table.Merged written es') : Merges key (mapping es) (mapping es')

theorem merges_withTextKeys (v : Value) : Merges Scalar.asTextKey v v.withTextKeys := by
  induction v using Value.induction with
  | scalar s => exact .leaf _ nofun nofun
  | set members => exact .leaf _ nofun nofun
  | tuple items => exact .leaf _ nofun nofun
  | knot label body => exact .leaf _ nofun nofun
  | again label => exact .leaf _ nofun nofun
  | list items ih =>
    rw [withTextKeys, itemsWithTextKeys_eq]
    exact .list _ _ (List.forall₂_map_right_iff.2 (List.forall₂_same.2 ih))
  | mapping es ih =>
    rw [withTextKeys, entriesWithTextKeys_eq]
    refine .mapping _ _ _ ?_ ?_ (Table.merged_ofEntries _)
    · simp [Table.keys]
    · exact List.forall₂_map_right_iff.2 (List.forall₂_same.2 ih)

/-! ### Distinct keys -/

/-- The keys of every mapping are distinct, those in knots included. -/
inductive Keyed : Value → Prop where
  | scalar (s : Scalar) : Keyed (scalar s)
  | list (items : List Value) (h : ∀ v ∈ items, Keyed v) : Keyed (list items)
  | tuple (items : List Value) (h : ∀ v ∈ items, Keyed v) : Keyed (tuple items)
  | mapping (entries : Entries) (hkeys : Table.Distinct entries) (h : ∀ e ∈ entries, Keyed e.2) :
    Keyed (mapping entries)
  | set (members : List Scalar) : Keyed (set members)
  | knot (label : Nat) (body : Value) (h : Keyed body) : Keyed (knot label body)
  | again (label : Nat) : Keyed (again label)

theorem Sound.keyed (v : Value) (h : v.Sound) : v.Keyed := by
  induction h with
  | scalar s => exact .scalar s
  | list items h ih => exact .list items ih
  | tuple items h ih => exact .tuple items ih
  | mapping entries hkeys h ih => exact .mapping entries hkeys ih
  | set members => exact .set members
  | knot label body hends h ih => exact .knot label body ih
  | again label => exact .again label

theorem keyed_map_values (f : Value → Value) (es : Entries) (hkeys : Table.Distinct es)
    (h : ∀ e ∈ es, (f e.2).Keyed) : (mapping (es.map fun e => (e.1, f e.2))).Keyed := by
  have hsame : Table.keys (es.map fun e => (e.1, f e.2)) = Table.keys es := by
    simp [Table.keys]
  refine .mapping _ ?_ (List.forall_mem_map.2 h)
  rwa [Table.distinct_iff, hsame, ← Table.distinct_iff]

theorem Keyed.tie (v : Value) (h : v.Keyed) (label : Nat) (k : Value) (hk : k.Keyed) :
    (Value.tie label k v).Keyed := by
  induction h with
  | scalar s => exact .scalar s
  | set members => exact .set members
  | list items h ih =>
    rw [Value.tie, tieItems_eq]
    exact .list _ (List.forall_mem_map.2 ih)
  | tuple items h ih =>
    rw [Value.tie, tieItems_eq]
    exact .tuple _ (List.forall_mem_map.2 ih)
  | mapping entries hkeys h ih =>
    rw [Value.tie, tieEntries_eq]
    exact keyed_map_values _ entries hkeys ih
  | knot l body h ih =>
    rw [Value.tie]
    split
    · exact .knot l body h
    · exact .knot l _ ih
  | again l =>
    rw [Value.tie]
    split
    · exact hk
    · exact .again l

section Knots

variable (v : Value) (h : v.Keyed) (knots : List (Nat × Value))
  (hknots : ∀ k ∈ knots, k.2.Keyed)

include h hknots in
theorem Keyed.tieAll : (v.tieAll knots).Keyed := by
  induction knots generalizing v with
  | nil => exact h
  | cons k knots ih =>
    obtain ⟨hk, hknots⟩ := List.forall_mem_cons.1 hknots
    exact ih _ (h.tie v k.1 k.2 hk) hknots

include h hknots in
theorem Keyed.loosenedIn : (v.loosenedIn knots).Keyed := by
  -- The body of a knot is loosened with one knot more, so the knots vary in the induction.
  induction h generalizing knots with
  | scalar s => exact (Keyed.scalar s).tieAll _ knots hknots
  | set members => exact (Keyed.set members).tieAll _ knots hknots
  | tuple items h => exact (Keyed.tuple items h).tieAll _ knots hknots
  | again label => exact (Keyed.again label).tieAll _ knots hknots
  | list items h ih =>
    rw [Value.loosenedIn, loosenedItems_eq]
    exact .list _ (List.forall_mem_map.2 fun u hu => ih u hu knots hknots)
  | mapping entries hkeys h ih =>
    rw [Value.loosenedIn, loosenedEntries_eq]
    exact keyed_map_values _ entries hkeys fun e he => ih e he knots hknots
  | knot label body h ih =>
    have hknot := (Keyed.knot label body h).tieAll _ knots hknots
    exact ih _ (List.forall_mem_cons.2 ⟨hknot, hknots⟩)

end Knots

section Parts

variable (v : Value) (h : v.Keyed)

include h in
theorem Keyed.withTextKeys : v.withTextKeys.Keyed := by
  induction h with
  | scalar s => exact .scalar s
  | set members => exact .set members
  | tuple items h => exact .tuple items h
  | knot label body h => exact .knot label body h
  | again label => exact .again label
  | list items h ih =>
    rw [Value.withTextKeys, itemsWithTextKeys_eq]
    exact .list _ (List.forall_mem_map.2 ih)
  | mapping es hkeys h ih =>
    rw [Value.withTextKeys, entriesWithTextKeys_eq]
    exact .mapping _ (Table.distinct_ofEntries _)
      (Table.forall_values_ofEntries Keyed _ (List.forall_mem_map.2 ih))

include h in
theorem Keyed.opened : v.opened.Keyed := by
  cases h with
  | knot label body h => exact h.tie body label _ (.knot label body h)
  | scalar s => exact .scalar s
  | list items h => exact .list items h
  | tuple items h => exact .tuple items h
  | mapping entries hkeys h => exact .mapping entries hkeys h
  | set members => exact .set members
  | again label => exact .again label

include h in
theorem Keyed.distinct (entries : Entries) (he : v.entries? = some entries) :
    Table.Distinct entries := by
  have hopened := h.opened
  rw [opened_of_entries? v entries he] at hopened
  cases hopened with
  | mapping _ hkeys => exact hkeys

include h in
theorem Keyed.part : ∀ u ∈ v.parts, u.Keyed := by
  have hopened := h.opened
  unfold parts items? entries?
  generalize v.opened = w at hopened
  cases hopened with
  | list items h => simpa using h
  | tuple items h => simpa using h
  | mapping entries _ h =>
    change ∀ u ∈ [] ++ entries.map (·.2), u.Keyed
    exact List.forall_mem_map.2 h
  | _ => nofun

include h in
theorem Keyed.keysDistinct : v.KeysDistinct := fun place w entries hw he =>
  (part?_keeps _ Keyed (fun _ hv _ => hv.part) v w place h hw).distinct w entries he

end Parts

theorem parts_of_entries? (v : Value) (m : Entries) (h : v.entries? = some m) :
    v.parts = m.map (·.2) := by
  rw [parts, items?_of_entries? v m h, h]
  rfl

theorem KeysDistinct.mapping (v : Value) (m : Entries) (h : v.KeysDistinct)
    (hm : v.entries? = some m) : (Value.mapping m).KeysDistinct := by
  intro place w entries hw he
  -- The place of the mapping itself is that of the value; all others are the same in both.
  cases place with
  | nil =>
    obtain rfl := Option.some.inj hw
    obtain rfl := Option.some.inj he
    exact h [] v _ rfl hm
  | cons i place =>
    refine h (i :: place) w entries ?_ he
    rw [← hw, part?, part?, parts_of_entries? v m hm, parts_mapping]

end DotPath.Value

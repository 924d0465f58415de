import DotPath.Proofs.Value.Keys
import DotPath.Proofs.Yaml.Build

set_option autoImplicit false

/-!
The values of YAML documents. No key comes twice in a mapping, and what is a knot does contain
itself. A value that has an end is thus a tree, and a tree whose keys are texts is left as it is
when knots are loosened and keys are turned into texts.
-/

namespace DotPath

namespace Value

/-- Values as documents have them: keys are distinct, and knots hold themselves. -/
inductive Sound : Value → Prop where
  | scalar (s : Scalar) : Sound (scalar s)
  | list (items : List Value) (h : ∀ v ∈ items, Sound v) : Sound (list items)
  | tuple (items : List Value) (h : ∀ v ∈ items, Sound v) : Sound (tuple items)
  | mapping (entries : Entries) (hkeys : Table.Distinct entries) (h : ∀ e ∈ entries, Sound e.2) :
    Sound (mapping entries)
  | set (members : List Scalar) : Sound (set members)
  | knot (label : Nat) (body : Value) (hends : body.isEndless) (h : Sound body) :
    Sound (knot label body)
  | again (label : Nat) : Sound (again label)

/-- Values that nowhere contain themselves, with distinct keys. -/
inductive Tree : Value → Prop where
  | scalar (s : Scalar) : Tree (scalar s)
  | list (items : List Value) (h : ∀ v ∈ items, Tree v) : Tree (list items)
  | tuple (items : List Value) (h : ∀ v ∈ items, Tree v) : Tree (tuple items)
  | mapping (entries : Entries) (hkeys : Table.Distinct entries) (h : ∀ e ∈ entries, Tree e.2) :
    Tree (mapping entries)
  | set (members : List Scalar) : Tree (set members)

theorem itemsEndless_iff (vs : List Value) : itemsEndless vs ↔ ∃ v ∈ vs, v.isEndless := by
  induction vs with
  | nil => simp [itemsEndless]
  | cons v vs ih => simp [itemsEndless, ih]

theorem entriesEndless_iff (es : Entries) : entriesEndless es ↔ ∃ e ∈ es, e.2.isEndless := by
  induction es with
  | nil => simp [entriesEndless]
  | cons e es ih => simp [entriesEndless, ih]

theorem Sound.tree (v : Value) (h : v.Sound) (hv : ¬ v.isEndless) : v.Tree := by
  induction h with
  | scalar s => exact .scalar s
  | set members => exact .set members
  | again label => exact absurd rfl hv
  | knot label body hends => exact absurd hends hv
  | list items h ih =>
    have hitems : ¬ ∃ v ∈ items, v.isEndless := mt (itemsEndless_iff items).2 hv
    exact .list items fun v hmem => ih v hmem fun he => hitems ⟨v, hmem, he⟩
  | tuple items h ih =>
    have hitems : ¬ ∃ v ∈ items, v.isEndless := mt (itemsEndless_iff items).2 hv
    exact .tuple items fun v hmem => ih v hmem fun he => hitems ⟨v, hmem, he⟩
  | mapping entries hkeys h ih =>
    have hentries : ¬ ∃ e ∈ entries, e.2.isEndless := mt (entriesEndless_iff entries).2 hv
    exact .mapping entries hkeys fun e hmem => ih e hmem fun he => hentries ⟨e, hmem, he⟩

section Trees

theorem tieItems_eq (label : Nat) (k : Value) (vs : List Value) :
    tieItems label k vs = vs.map (tie label k) := by
  induction vs with
  | nil => rfl
  | cons v vs ih => simp [tieItems, ih]

theorem tieEntries_eq (label : Nat) (k : Value) (es : Entries) :
    tieEntries label k es = es.map fun e => (e.1, tie label k e.2) := by
  induction es with
  | nil => rfl
  | cons e es ih => simp [tieEntries, ih]

theorem map_entries_eq_self (f : Value → Value) (es : Entries) (h : ∀ e ∈ es, f e.2 = e.2) :
    es.map (fun e => (e.1, f e.2)) = es := by
  have hid : ∀ e ∈ es, (e.1, f e.2) = id e := fun e he => by rw [h e he]; rfl
  rw [List.map_congr_left hid, List.map_id]

/-- There are no labels in a tree. -/
theorem Tree.tie_eq_self (v : Value) (h : v.Tree) (label : Nat) (k : Value) :
    tie label k v = v := by
  induction h with
  | scalar s => rfl
  | set members => rfl
  | list items h ih =>
    rw [tie, tieItems_eq, List.map_congr_left ih, List.map_id']
  | tuple items h ih => rw [tie, tieItems_eq, List.map_congr_left ih, List.map_id']
  | mapping entries hkeys h ih => rw [tie, tieEntries_eq, map_entries_eq_self _ entries ih]

theorem Tree.tieAll_eq_self (v : Value) (h : v.Tree) (knots : List (Nat × Value)) :
    v.tieAll knots = v := Value.tieAll_eq_self knots v h.tie_eq_self

theorem Tree.loosenedIn_eq_self (v : Value) (h : v.Tree) (knots : List (Nat × Value)) :
    v.loosenedIn knots = v := by
  induction h with
  | scalar s => exact (Tree.scalar s).tieAll_eq_self _ knots
  | set members => exact (Tree.set members).tieAll_eq_self _ knots
  | tuple items h => exact (Tree.tuple items h).tieAll_eq_self _ knots
  | list items h ih => rw [loosenedIn, loosenedItems_eq, List.map_congr_left ih, List.map_id']
  | mapping entries hkeys h ih =>
    rw [loosenedIn, loosenedEntries_eq, map_entries_eq_self _ entries ih]

theorem asTextKey_eq_self (k : Scalar) (h : k.kind = .string) : k.asTextKey = k := by
  cases k with
  | text s => exact congrArg Scalar.text String.ofList_toList
  | ragged ps => rfl
  | _ => cases h

/-- A tree with texts for keys is not changed by turning keys into texts. -/
theorem Tree.withTextKeys_eq_self (v : Value) (h : v.Tree) (hkeys : v.TextKeyed) :
    v.withTextKeys = v := by
  induction h with
  | scalar s => rfl
  | set members => rfl
  | tuple items => rfl
  | list items h ih =>
    cases hkeys with
    | list _ hitems =>
      rw [withTextKeys, itemsWithTextKeys_eq,
        List.map_congr_left fun u hu => ih u hu (hitems u hu), List.map_id']
  | mapping entries hdistinct h ih =>
    cases hkeys with
    | mapping _ htexts hvalues =>
      have hsame : ∀ e ∈ entries, (e.1.asTextKey, e.2.withTextKeys) = id e := fun e he => by
        rw [asTextKey_eq_self e.1 (htexts e he), ih e he (hvalues e he)]
        rfl
      rw [withTextKeys, entriesWithTextKeys_eq, List.map_congr_left hsame, List.map_id,
        Table.ofEntries_eq_self entries hdistinct]

end Trees

end Value

namespace Yaml

open Value

namespace Loose

/-- A value with its loose labels: it is endless if there are any. -/
structure Sound (l : Loose) : Prop where
  value : l.value.Sound
  ends : l.labels ≠ [] → l.value.isEndless

theorem sound_ofScalar (s : Scalar) : (ofScalar s).Sound := ⟨.scalar s, fun h => absurd rfl h⟩

theorem sound_again (id : NodeId) : (⟨.again id, [id]⟩ : Loose).Sound := ⟨.again id, fun _ => rfl⟩

theorem labelsOf_eq_nil (parts : List Loose) (h : ∀ part ∈ parts, part.labels = []) :
    labelsOf parts = [] := by
  induction parts with
  | nil => rfl
  | cons part parts ih =>
    obtain ⟨hpart, hparts⟩ := List.forall_mem_cons.1 h
    rw [labelsOf, List.foldl_cons, hpart]
    exact ih hparts

/-- A collection of sound parts is sound; a label left in it comes from one of its parts. -/
theorem sound_collection (id : NodeId) (value : Value) (parts : List Loose) (hvalue : value.Sound)
    (hparts : ∀ part ∈ parts, part.Sound)
    (hends : ∀ part ∈ parts, part.value.isEndless → value.isEndless) :
    (collection id value parts).Sound := by
  have hlabels : labelsOf parts ≠ [] → value.isEndless := by
    intro hne
    by_contra hvalue
    refine hne (labelsOf_eq_nil parts fun part hpart => ?_)
    by_contra hpartne
    exact hvalue (hends part hpart ((hparts part hpart).ends hpartne))
  rw [collection]
  split
  next hid =>
    have hne : labelsOf parts ≠ [] := by
      intro hnil
      rw [hnil] at hid
      cases hid
    exact ⟨.knot id value (hlabels hne) hvalue, fun _ => hlabels hne⟩
  next => exact ⟨hvalue, hlabels⟩

theorem sound_items (id : NodeId) (parts : List Loose) (h : ∀ part ∈ parts, part.Sound) :
    (collection id (.list (parts.map (·.value))) parts).Sound := by
  refine sound_collection id _ parts (.list _ ?_) h fun part hmem he => ?_
  · exact List.forall_mem_map.2 fun part hmem => (h part hmem).value
  · exact (itemsEndless_iff _).2 ⟨part.value, List.mem_map_of_mem hmem, he⟩

theorem sound_pairs (id : NodeId) (pairs : List (Loose × Loose))
    (h : ∀ p ∈ pairs, p.1.Sound ∧ p.2.Sound) :
    (collection id (.list (pairs.map fun p => .tuple [p.1.value, p.2.value]))
      (pairs.flatMap fun p => [p.1, p.2])).Sound := by
  have hfrom : ∀ part ∈ pairs.flatMap (fun p => [p.1, p.2]), ∃ p ∈ pairs,
      part = p.1 ∨ part = p.2 := by simp
  refine sound_collection id _ _ (.list _ ?_) (fun part hmem => ?_) fun part hmem he => ?_
  · refine List.forall_mem_map.2 fun p hp => .tuple _ ?_
    simpa using ⟨(h p hp).1.value, (h p hp).2.value⟩
  · obtain ⟨p, hp, rfl | rfl⟩ := hfrom part hmem
    · exact (h p hp).1
    · exact (h p hp).2
  · obtain ⟨p, hp, hpart⟩ := hfrom part hmem
    refine (itemsEndless_iff _).2 ⟨_, List.mem_map_of_mem hp, (itemsEndless_iff _).2 ?_⟩
    obtain rfl | rfl := hpart
    · exact ⟨_, List.mem_cons_self, he⟩
    · exact ⟨_, List.mem_cons_of_mem _ List.mem_cons_self, he⟩

theorem sound_entries (id : NodeId) (entries : List (Scalar × Loose))
    (hkeys : Table.Distinct entries) (h : ∀ e ∈ entries, e.2.Sound) :
    (collection id (.mapping (entries.map fun e => (e.1, e.2.value)))
      (entries.map (·.2))).Sound := by
  refine sound_collection id _ _ (.mapping _ ?_ ?_) ?_ fun part hmem he => ?_
  · have hsame : Table.keys (entries.map fun e => (e.1, e.2.value)) = Table.keys entries := by
      rw [Table.keys, List.map_map]
      rfl
    rwa [Table.distinct_iff, hsame, ← Table.distinct_iff]
  · exact List.forall_mem_map.2 fun e he => (h e he).value
  · exact List.forall_mem_map.2 h
  · obtain ⟨e, hmem', rfl⟩ := List.mem_map.1 hmem
    exact (entriesEndless_iff _).2 ⟨_, List.mem_map_of_mem hmem', he⟩

variable {σ : Type} {m : Type → Type} [Monad m] [LawfulMonad m] {I : σ → Prop}

theorem keeps_ofBody (ofPart : Part → StateT σ m Loose) (id : NodeId) (body : Body)
    (hpart : ∀ part, Keeps I Sound (ofPart part)) (hbody : body.Proper) :
    Keeps I Sound (ofBody ofPart id body) := by
  cases body with
  | set members => exact .pure _ ⟨.set members, fun h => absurd rfl h⟩
  | list items =>
    exact .bind _ _ (.mapM (fun _ => Sound) _ items fun part _ => hpart part) fun parts h =>
      .pure _ (sound_items id parts (forall_of_forall₂ h))
  | pairs items =>
    refine .bind _ _ (.mapM (fun _ p => p.1.Sound ∧ p.2.Sound) _ items fun e _ => ?_)
      fun pairs h => .pure _ (sound_pairs id pairs (forall_of_forall₂ h))
    exact .bind _ _ (hpart e.1) fun key hkey => .bind _ _ (hpart e.2) fun value hvalue =>
      .pure _ ⟨hkey, hvalue⟩
  | mapping entries =>
    refine .bind _ _ (.mapM (fun e r => e.1 = r.1 ∧ r.2.Sound) _ entries fun e _ => ?_)
      fun results h => .pure _ (sound_entries id results ?_ ?_)
    · exact .bind _ _ (hpart e.2) fun value hvalue => .pure _ ⟨rfl, hvalue⟩
    · have hfirst := h.imp fun _ _ h => h.1
      have hkeys : Table.keys entries = Table.keys results := by
        rwa [← List.forall₂_map_right_iff, ← List.forall₂_map_left_iff,
          List.forall₂_eq_eq_eq] at hfirst
      rw [Table.distinct_iff, ← hkeys, ← Table.distinct_iff]
      exact hbody
    · exact forall_of_forall₂ (h.imp fun _ _ h => h.2)

theorem keeps_ofPart (bodies : Array (Option Body)) (hbodies : Holding Body.Proper bodies) (n : Nat)
    (around : List NodeId) (part : Part) :
    Keeps (Holding Value.Sound) Sound (ofPart bodies n around part) := by
  induction n generalizing around part with
  | zero =>
    cases part with
    | scalar s => exact .pure _ (sound_ofScalar s)
    | object id => exact .pure _ (sound_again id)
  | succ n ih =>
    cases part with
    | scalar s => exact .pure _ (sound_ofScalar s)
    | object id =>
      unfold ofPart
      split
      next => exact .pure _ (sound_again id)
      next =>
      refine .bind _ _ .get fun known hknown => ?_
      split
      next value hvalue =>
        exact .pure _ ⟨hknown id value (Option.join_eq_some_iff.1 hvalue), fun h => absurd rfl h⟩
      next => exact .pure _ (sound_ofScalar .null)
      next body _ hbody =>
        have hproper := hbodies id body (Option.join_eq_some_iff.1 hbody)
        refine .bind _ _ (keeps_ofBody _ id body (ih _) hproper) fun loose hloose => ?_
        split
        next =>
          exact .bind _ _ (.modify _ fun known hknown => hknown.set _ _ id _ hloose.value)
            fun _ _ => .pure _ hloose
        next => exact .pure _ hloose

end Loose

theorem sound_of_read [Host] (text : List Char) (v : Value) (h : read text = .ok v) : v.Sound := by
  obtain ⟨⟨root, graph⟩, -, h⟩ := (bind_eq_ok_iff _ _ _).1 h
  cases root with
  | none =>
    cases h
    exact .scalar .null
  | some root =>
    obtain ⟨⟨part, bodies⟩, hbuild, h⟩ := (bind_eq_ok_iff _ _ _).1 h
    have hbodies := proper_of_build graph root part bodies hbuild
    have hloose := Loose.keeps_ofPart bodies hbodies (graph.size + 1) [] part _
      (holding_replicate Value.Sound graph.size)
    rw [SatisfiesM_Id_eq] at hloose
    cases h
    exact hloose.2.value

end Yaml

end DotPath

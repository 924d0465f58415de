import DotPath.Proofs.Outcome
import DotPath.Proofs.Table
import DotPath.Proofs.Value.Parts

set_option autoImplicit false

/-!
Texts for keys. What is loaded of YAML has texts for keys in every mapping that mappings and lists
lead to. Tuples are left as they were read, and so are the mappings in them.
-/

namespace DotPath

theorem Scalar.kind_asTextKey (s : Scalar) : s.asTextKey.kind = .string := by
  cases s <;> rfl

namespace Value

/-- Mappings have texts for keys as far as mappings and lists lead. -/
inductive TextKeyed : Value → Prop where
  | scalar (s : Scalar) : TextKeyed (scalar s)
  | list (items : List Value) (h : ∀ v ∈ items, TextKeyed v) : TextKeyed (list items)
  | tuple (items : List Value) : TextKeyed (tuple items)
  | mapping (entries : Entries) (hkeys : ∀ e ∈ entries, e.1.kind = .string)
    (h : ∀ e ∈ entries, TextKeyed e.2) : TextKeyed (mapping entries)
  | set (members : List Scalar) : TextKeyed (set members)

theorem textKeyed_ofEntries (es : Entries)
    (h : ∀ e ∈ es, e.1.kind = .string ∧ TextKeyed e.2) :
    TextKeyed (mapping (Table.ofEntries es)) := by
  have hall := Table.forall_mem_ofEntries (fun k : Scalar => k.kind = .string) TextKeyed es h
  exact .mapping _ (fun e he => (hall e he).1) fun e he => (hall e he).2

def isTuple (v : Value) : Bool :=
  match v.opened with
  | tuple _ => true
  | _ => false

theorem TextKeyed.part (v : Value) (h : TextKeyed v) (hv : !v.isTuple) :
    ∀ u ∈ v.parts, TextKeyed u := by
  cases h with
  | scalar s => nofun
  | set members => nofun
  | tuple items => cases hv
  | list items h =>
    rw [parts_list]
    exact h
  | mapping entries _ h =>
    rw [parts_mapping]
    exact List.forall_mem_map.2 h

theorem TextKeyed.keys (v : Value) (entries : Entries) (h : TextKeyed v)
    (he : v.entries? = some entries) : ∀ k ∈ Table.keys entries, k.kind = .string := by
  cases h with
  | mapping es hkeys =>
    obtain rfl := Option.some.inj he
    intro k hk
    obtain ⟨e, hmem, rfl⟩ := List.mem_map.1 hk
    exact hkeys e hmem
  | _ => cases he

section Faults

variable (depth : Nat)

theorem itemsKeyFault?_eq_none_iff (vs : List Value) :
    itemsKeyFault? depth vs = none ↔ ∀ v ∈ vs, v.keyFault? depth = none := by
  induction vs with
  | nil => simp [itemsKeyFault?]
  | cons v vs ih => simp [itemsKeyFault?, ih]

theorem entriesKeyFault?_eq_none_iff (es : Entries) :
    entriesKeyFault? depth es = none ↔
      ∀ e ∈ es, ¬ e.1.isTooLong ∧ e.2.keyFault? depth = none := by
  induction es with
  | nil => simp [entriesKeyFault?]
  | cons e es ih =>
    rw [List.forall_mem_cons, ← ih, entriesKeyFault?]
    split
    next hlong => simp [hlong]
    next hlong => simp [hlong]

theorem keyFault?_list_eq_none_iff (vs : List Value) :
    (list vs).keyFault? depth = none ↔ 0 < depth ∧ ∀ v ∈ vs, v.keyFault? (depth - 1) = none := by
  rw [keyFault?, ← itemsKeyFault?_eq_none_iff]
  split
  next h => simp [h]
  next h => simp [Nat.pos_of_ne_zero h]

theorem keyFault?_mapping_eq_none_iff (es : Entries) :
    (mapping es).keyFault? depth = none ↔
      0 < depth ∧ ∀ e ∈ es, ¬ e.1.isTooLong ∧ e.2.keyFault? (depth - 1) = none := by
  rw [keyFault?, ← entriesKeyFault?_eq_none_iff]
  split
  next h => simp [h]
  next h => simp [Nat.pos_of_ne_zero h]

end Faults

/-- Where keys can be turned into texts they are, the knots on the way being loosened. -/
theorem textKeyed_withTextKeys (v : Value) (knots : List (Nat × Value)) (depth : Nat)
    (h : v.keyFault? depth = none) : TextKeyed (v.loosenedIn knots).withTextKeys := by
  -- The body of a knot is loosened with one knot more, so the knots vary in the induction.
  induction v using Value.induction generalizing knots depth with
  | scalar s =>
    change TextKeyed ((scalar s).tieAll knots).withTextKeys
    rw [tieAll_eq_self knots _ fun _ _ => rfl]
    exact .scalar s
  | set members =>
    change TextKeyed ((set members).tieAll knots).withTextKeys
    rw [tieAll_eq_self knots _ fun _ _ => rfl]
    exact .set members
  | tuple items =>
    obtain ⟨items', hitems⟩ := exists_tieAll_tuple knots items
    change TextKeyed ((tuple items).tieAll knots).withTextKeys
    rw [hitems]
    exact .tuple items'
  | list items ih =>
    change TextKeyed (list (itemsWithTextKeys (loosenedItems knots items)))
    rw [loosenedItems_eq, itemsWithTextKeys_eq, List.map_map]
    refine .list _ fun u hu => ?_
    obtain ⟨w, hw, rfl⟩ := List.mem_map.1 hu
    exact ih w hw knots (depth - 1) (((keyFault?_list_eq_none_iff depth items).1 h).2 w hw)
  | mapping entries ih =>
    change TextKeyed
      (mapping (Table.ofEntries (entriesWithTextKeys (loosenedEntries knots entries))))
    rw [loosenedEntries_eq, entriesWithTextKeys_eq, List.map_map]
    refine textKeyed_ofEntries _ fun e he => ?_
    obtain ⟨d, hd, rfl⟩ := List.mem_map.1 he
    obtain ⟨-, hentries⟩ := (keyFault?_mapping_eq_none_iff depth entries).1 h
    exact ⟨d.1.kind_asTextKey, ih d hd knots (depth - 1) (hentries d hd).2⟩
  | knot label body ih => exact ih _ depth h
  | again label => cases h

end Value

namespace Document

open Text

section

variable [Host]

theorem textKeyed_of_readYaml (path : FilePath) (text : List Char) (v : Value)
    (h : readYaml path text = .ok v) : v.TextKeyed := by
  unfold readYaml at h
  split at h
  · cases h
  · cases h
  next u _ =>
    split at h
    · obtain rfl := Except.ok.inj h
      exact .mapping [] (by simp) (by simp)
    · obtain ⟨hfault, rfl⟩ := (u.textKeys_eq_ok_iff v).1 ((mapError_eq_ok_iff _ _ _).1 h)
      exact u.textKeyed_withTextKeys [] Host.keyDepth hfault

theorem textKeyed_of_load (files : Files) (path : FilePath) (v : Value) (hyaml : path.isYaml)
    (h : (load files path).result = .ok v) : v.TextKeyed := by
  rw [result_load] at h
  split at h
  next octets _ =>
    obtain ⟨text, -, hread⟩ := (bind_eq_ok_iff _ _ _).1 h
    rw [read, if_pos hyaml] at hread
    split at hread
    · obtain rfl := Except.ok.inj hread
      exact .mapping [] (by simp) (by simp)
    · exact textKeyed_of_readYaml path text v hread
  · cases h
  · cases h

/-- The keys of the mapping at a place of the document in a file. -/
def keysAt (files : Files) (path : FilePath) (through : Value → Bool) (place : List Nat) :
    Option (List Scalar) := do
  let v ← (load files path).result.toOption
  let w ← v.part? through place
  Table.keys <$> w.entries?

/-- Every mapping in a document of YAML has texts for keys, if no tuple is above it. -/
theorem text_keys_of_load (files : Files) (path : FilePath) (hyaml : path.isYaml)
    (place : List Nat) (ks : List Scalar) (h : keysAt files path (!·.isTuple) place = some ks) :
    ∀ k ∈ ks, k.kind = .string := by
  obtain ⟨v, hv, hrest⟩ := Option.bind_eq_some_iff.1 h
  obtain ⟨w, hw, hkeys⟩ := Option.bind_eq_some_iff.1 hrest
  obtain ⟨entries, he, rfl⟩ := Option.map_eq_some_iff.1 hkeys
  have htop := textKeyed_of_load files path v hyaml ((toOption_eq_some_iff _ _).1 hv)
  exact (Value.part?_keeps _ Value.TextKeyed Value.TextKeyed.part v w place htop hw).keys w entries
    he

end

theorem text_keys_of_load_in_list :
    let files : Files := fun _ => .file (Utf8.encode "1: [\x7b2: true, null: 1\x7d]".toList)
    (FilePath.ofText "d.YML").isYaml ∧
      keysAt files (.ofText "d.YML") (!·.isTuple) [0, 0] = some [.text "2", .text "null"] ∧
      ∀ k ∈ [Scalar.text "2", .text "null"], k.kind = .string := by
  have hyaml : (FilePath.ofText "d.YML").isYaml := by decide +kernel
  have hkeys : keysAt (fun _ => .file (Utf8.encode "1: [\x7b2: true, null: 1\x7d]".toList))
      (.ofText "d.YML") (!·.isTuple) [0, 0] = some [.text "2", .text "null"] := by decide +kernel
  exact ⟨hyaml, hkeys, text_keys_of_load _ _ hyaml _ _ hkeys⟩

/-- The pairs of a document are tuples, and a mapping in one keeps the keys that it has. -/
theorem number_key_in_pair :
    let files : Files := fun _ => .file (Utf8.encode "a: !!pairs [x: \x7b1: 2\x7d]".toList)
    (FilePath.ofText "d.yaml").isYaml ∧
      keysAt files (.ofText "d.yaml") (fun _ => true) [0, 0, 1] = some [.int 1] ∧
      (Scalar.int 1).kind ≠ .string := by
  decide +kernel

end Document

end DotPath

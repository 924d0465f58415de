import DotPath.Proofs.Table.Merged
import DotPath.Proofs.Yaml.Tree

set_option autoImplicit false

/-!
What becomes of a tree when its keys are turned into texts. Entries whose keys come to one text are
one entry, in the first of their places and with the value of the last of them. A tree that has
texts for keys stays as it is, so that to turn keys once is enough. Only a number too long to be
written and a nesting too deep for the machine stand against it.
-/

namespace DotPath

namespace Scalar

theorem beq_iff_of_string (s t : Scalar) (h : s.kind = .string) : s == t ↔ s = t := by
  cases s with
  | text k => rw [BEq.comm, beq_text_iff, eq_comm]
  | ragged ps =>
    change same (ragged ps) t ↔ _
    rw [same_of_not_moments _ t fun _ _ h => by simp at h, decide_eq_true_iff]
    cases t with
    | float x => cases hx : x.toInt? <;> simp [normal, hx]
    | _ => simp [normal]
  | _ => cases h

theorem asTextKey_beq_iff (j k : Scalar) : j.asTextKey == k.asTextKey ↔ j.asTextKey = k.asTextKey :=
  beq_iff_of_string _ _ j.kind_asTextKey

end Scalar

namespace Value

/-- Somewhere in mappings and lists there is a key that is a number too long to be written. -/
inductive LongKeyed : Value → Prop where
  | key (entries : Entries) (k : Scalar) (hk : k ∈ Table.keys entries) (hlong : k.isTooLong) :
    LongKeyed (mapping entries)
  | value (entries : Entries) (e : Scalar × Value) (he : e ∈ entries) (h : LongKeyed e.2) :
    LongKeyed (mapping entries)
  | item (items : List Value) (v : Value) (hv : v ∈ items) (h : LongKeyed v) :
    LongKeyed (list items)

mutual

/-- How many mappings and lists are open at once where a value is deepest, as far as these lead. -/
def nesting : Value → Nat
  | mapping entries => entriesNesting entries + 1
  | list items => itemsNesting items + 1
  | knot _ body => nesting body
  | _ => 0

def itemsNesting : List Value → Nat
  | [] => 0
  | v :: vs => max (nesting v) (itemsNesting vs)

def entriesNesting : Entries → Nat
  | [] => 0
  | (_, v) :: es => max (nesting v) (entriesNesting es)

end

/-- What stands against turning the keys of a value into texts, `depth` being the mappings and lists
that may be open at once. -/
inductive Unturnable (depth : Nat) (v : Value) : Crash → Prop where
  | long (h : LongKeyed v) : Unturnable depth v .tooLongToWrite
  | deep (h : depth < v.nesting) : Unturnable depth v .tooDeep

section

variable [Host]

/-- The entries that others come to: their keys are the texts in the order in which these come
first, each with what the value of the last entry of this text comes to. An entry is lost just when
a later one has its text. -/
structure Rekeyed (es es' : Entries) : Prop where
  keys : Table.keys es' = ((Table.keys es).map Scalar.asTextKey).eraseDups
  last : ∀ before k u after, es = before ++ (k, u) :: after →
    (∀ j ∈ Table.keys after, j.asTextKey ≠ k.asTextKey) →
      ∃ u', u.textKeys = .ok u' ∧ Table.get? es' k.asTextKey = some u'
  loses_iff : es'.length < es.length ↔ ∃ before k u after, es = before ++ (k, u) :: after ∧
    ∃ j ∈ Table.keys after, j.asTextKey = k.asTextKey

/-- What a value has come to, level by level: mappings and lists stay such, and all others stay as
they are. -/
def Turned (v w : Value) : Prop :=
  match v with
  | mapping es => ∃ es', w = mapping es' ∧ Rekeyed es es'
  | list items =>
    ∃ items', w = list items' ∧ List.Forall₂ (fun u u' => u.textKeys = .ok u') items items'
  | _ => w = v

end

/-! ### What stands against it -/

theorem isTooLong_eq_false (k : Scalar) (h : k.kind = .string) : k.isTooLong = false := by
  cases k with
  | int n => cases h
  | _ => rfl

theorem longKeyed_mapping_iff (es : Entries) :
    LongKeyed (mapping es) ↔ ∃ e ∈ es, e.1.isTooLong ∨ LongKeyed e.2 := by
  constructor
  · rintro (⟨_, k, hk, hlong⟩ | ⟨_, e, he, h⟩)
    · obtain ⟨e, he, rfl⟩ := List.mem_map.1 hk
      exact ⟨e, he, .inl hlong⟩
    · exact ⟨e, he, .inr h⟩
  · rintro ⟨e, he, hlong | h⟩
    · exact .key es e.1 (List.mem_map_of_mem he) hlong
    · exact .value es e he h

theorem longKeyed_list_iff (items : List Value) :
    LongKeyed (list items) ↔ ∃ v ∈ items, LongKeyed v := by
  constructor
  · rintro (_ | _ | ⟨_, v, hv, h⟩)
    exact ⟨v, hv, h⟩
  · rintro ⟨v, hv, h⟩
    exact .item items v hv h

theorem itemsNesting_le_iff (vs : List Value) (n : Nat) :
    itemsNesting vs ≤ n ↔ ∀ v ∈ vs, v.nesting ≤ n := by
  induction vs with
  | nil => simp [itemsNesting]
  | cons v vs ih => simp [itemsNesting, ih]

theorem entriesNesting_le_iff (es : Entries) (n : Nat) :
    entriesNesting es ≤ n ↔ ∀ e ∈ es, e.2.nesting ≤ n := by
  induction es with
  | nil => simp [entriesNesting]
  | cons e es ih => simp [entriesNesting, ih]

theorem nesting_list_le_iff (vs : List Value) (n : Nat) :
    (list vs).nesting ≤ n ↔ 0 < n ∧ ∀ v ∈ vs, v.nesting ≤ n - 1 := by
  rw [nesting, ← itemsNesting_le_iff]
  omega

theorem nesting_mapping_le_iff (es : Entries) (n : Nat) :
    (mapping es).nesting ≤ n ↔ 0 < n ∧ ∀ e ∈ es, e.2.nesting ≤ n - 1 := by
  rw [nesting, ← entriesNesting_le_iff]
  omega

theorem exists_fault_of_items (depth : Nat) (vs : List Value) (c : Crash)
    (h : itemsKeyFault? depth vs = some c) : ∃ v ∈ vs, v.keyFault? depth = some c := by
  induction vs with
  | nil => cases h
  | cons v vs ih =>
    obtain hv | ⟨-, hvs⟩ := Option.or_eq_some_iff.1 h
    · exact ⟨v, by simp, hv⟩
    · obtain ⟨u, hu, hfault⟩ := ih hvs
      exact ⟨u, by simp [hu], hfault⟩

theorem exists_fault_of_entries (depth : Nat) (es : Entries) (c : Crash)
    (h : entriesKeyFault? depth es = some c) :
    ∃ e ∈ es, e.1.isTooLong ∧ c = .tooLongToWrite ∨ e.2.keyFault? depth = some c := by
  induction es with
  | nil => cases h
  | cons e es ih =>
    rw [entriesKeyFault?] at h
    split at h
    next hlong => exact ⟨e, by simp, .inl ⟨hlong, (Option.some.inj h).symm⟩⟩
    next =>
      obtain he | ⟨-, hes⟩ := Option.or_eq_some_iff.1 h
      · exact ⟨e, by simp, .inr he⟩
      · obtain ⟨d, hd, hfault⟩ := ih hes
        exact ⟨d, by simp [hd], hfault⟩

theorem Unturnable.item (depth : Nat) (items : List Value) (v : Value) (hv : v ∈ items) (c : Crash)
    (h : Unturnable (depth - 1) v c) : Unturnable depth (list items) c := by
  cases h with
  | long h => exact .long (.item items v hv h)
  | deep h =>
    refine .deep (Nat.lt_of_not_le fun hle => ?_)
    exact absurd h (Nat.not_lt.2 (((nesting_list_le_iff items depth).1 hle).2 v hv))

theorem Unturnable.value (depth : Nat) (es : Entries) (e : Scalar × Value) (he : e ∈ es) (c : Crash)
    (h : Unturnable (depth - 1) e.2 c) : Unturnable depth (mapping es) c := by
  cases h with
  | long h => exact .long (.value es e he h)
  | deep h =>
    refine .deep (Nat.lt_of_not_le fun hle => ?_)
    exact absurd h (Nat.not_lt.2 (((nesting_mapping_le_iff es depth).1 hle).2 e he))

theorem Tree.unturnable (v : Value) (h : v.Tree) (depth : Nat) (c : Crash)
    (hc : v.keyFault? depth = some c) : Unturnable depth v c := by
  induction h generalizing depth with
  | scalar s => cases hc
  | set members => cases hc
  | tuple items => cases hc
  | list items h ih =>
    rw [keyFault?] at hc
    split at hc
    next hdepth =>
      obtain rfl := Option.some.inj hc
      exact .deep (by rw [hdepth, nesting]; omega)
    next =>
      obtain ⟨v, hv, hfault⟩ := exists_fault_of_items _ items c hc
      exact .item depth items v hv c (ih v hv _ hfault)
  | mapping es hkeys h ih =>
    rw [keyFault?] at hc
    split at hc
    next hdepth =>
      obtain rfl := Option.some.inj hc
      exact .deep (by rw [hdepth, nesting]; omega)
    next =>
      obtain ⟨e, he, ⟨hlong, rfl⟩ | hfault⟩ := exists_fault_of_entries _ es c hc
      · exact .long (.key es e.1 (List.mem_map_of_mem he) hlong)
      · exact .value depth es e he c (ih e he _ hfault)

theorem Tree.keyFault?_eq_none_iff (v : Value) (h : v.Tree) (depth : Nat) :
    v.keyFault? depth = none ↔ ¬ v.LongKeyed ∧ v.nesting ≤ depth := by
  induction h generalizing depth with
  | scalar s => exact iff_of_true rfl ⟨nofun, Nat.zero_le depth⟩
  | set members => exact iff_of_true rfl ⟨nofun, Nat.zero_le depth⟩
  | tuple items => exact iff_of_true rfl ⟨nofun, Nat.zero_le depth⟩
  | list items h ih =>
    rw [keyFault?_list_eq_none_iff, longKeyed_list_iff, nesting_list_le_iff]
    constructor
    · rintro ⟨hdepth, hitems⟩
      refine ⟨?_, hdepth, fun v hv => ((ih v hv _).1 (hitems v hv)).2⟩
      rintro ⟨v, hv, hlong⟩
      exact ((ih v hv _).1 (hitems v hv)).1 hlong
    · rintro ⟨hlong, hdepth, hitems⟩
      exact ⟨hdepth, fun v hv =>
        (ih v hv _).2 ⟨fun hlongv => hlong ⟨v, hv, hlongv⟩, hitems v hv⟩⟩
  | mapping es hkeys h ih =>
    rw [keyFault?_mapping_eq_none_iff, longKeyed_mapping_iff, nesting_mapping_le_iff]
    constructor
    · rintro ⟨hdepth, hentries⟩
      refine ⟨?_, hdepth, fun e he => ((ih e he _).1 (hentries e he).2).2⟩
      rintro ⟨e, he, hkey | hlong⟩
      · exact (hentries e he).1 hkey
      · exact ((ih e he _).1 (hentries e he).2).1 hlong
    · rintro ⟨hlong, hdepth, hentries⟩
      exact ⟨hdepth, fun e he => ⟨fun hkey => hlong ⟨e, he, .inl hkey⟩,
        (ih e he _).2 ⟨fun hlonge => hlong ⟨e, he, .inr hlonge⟩, hentries e he⟩⟩⟩

theorem TextKeyed.not_longKeyed (v : Value) (h : v.TextKeyed) : ¬ v.LongKeyed := by
  intro hlong
  induction hlong with
  | key entries k hk hlong =>
    rw [isTooLong_eq_false k (h.keys _ entries rfl k hk)] at hlong
    cases hlong
  | value entries e he _ ih =>
    cases h with
    | mapping _ _ hvalues => exact ih (hvalues e he)
  | item items v hv _ ih =>
    cases h with
    | list _ hitems => exact ih (hitems v hv)

/-! ### Trees -/

theorem Tree.nesting_withTextKeys_le (v : Value) (h : v.Tree) (n : Nat) (hn : v.nesting ≤ n) :
    v.withTextKeys.nesting ≤ n := by
  induction h generalizing n with
  | scalar s => exact hn
  | set members => exact hn
  | tuple items => exact hn
  | list items h ih =>
    rw [nesting_list_le_iff] at hn
    rw [Value.withTextKeys, itemsWithTextKeys_eq, nesting_list_le_iff]
    exact ⟨hn.1, List.forall_mem_map.2 fun v hv => ih v hv _ (hn.2 v hv)⟩
  | mapping es hkeys h ih =>
    rw [nesting_mapping_le_iff] at hn
    rw [Value.withTextKeys, entriesWithTextKeys_eq, nesting_mapping_le_iff]
    exact ⟨hn.1, Table.forall_values_ofEntries (nesting · ≤ n - 1) _
      (List.forall_mem_map.2 fun e he => ih e he _ (hn.2 e he))⟩

theorem Tree.withTextKeys (v : Value) (h : v.Tree) : v.withTextKeys.Tree := by
  induction h with
  | scalar s => exact .scalar s
  | set members => exact .set members
  | tuple items h => exact .tuple items h
  | list items h ih =>
    rw [Value.withTextKeys, itemsWithTextKeys_eq]
    exact .list _ (List.forall_mem_map.2 ih)
  | mapping es hkeys h ih =>
    rw [Value.withTextKeys, entriesWithTextKeys_eq]
    exact .mapping _ (Table.distinct_ofEntries _)
      (Table.forall_values_ofEntries Tree _ (List.forall_mem_map.2 ih))

section Trees

variable [Host] (v : Value)

theorem textKeyed_of_textKeys (w : Value) (hw : v.textKeys = .ok w) : w.TextKeyed := by
  obtain ⟨hfault, rfl⟩ := (v.textKeys_eq_ok_iff w).1 hw
  exact v.textKeyed_withTextKeys [] Host.keyDepth hfault

variable (h : v.Tree)

include h in
theorem Tree.textKeys_eq_ok_iff (w : Value) :
    v.textKeys = .ok w ↔ (¬ v.LongKeyed ∧ v.nesting ≤ Host.keyDepth) ∧ v.withTextKeys = w := by
  rw [Value.textKeys_eq_ok_iff, Tree.keyFault?_eq_none_iff v h, loosened, h.loosenedIn_eq_self]

include h in
theorem Tree.textKeys_eq_ok (hlong : ¬ v.LongKeyed) (hdepth : v.nesting ≤ Host.keyDepth) :
    v.textKeys = .ok v.withTextKeys :=
  (h.textKeys_eq_ok_iff v _).2 ⟨⟨hlong, hdepth⟩, rfl⟩

include h in
theorem Tree.textKeys_fails_iff :
    (∃ c, v.textKeys = .error c) ↔ v.LongKeyed ∨ Host.keyDepth < v.nesting := by
  simp only [textKeys_eq_error_iff, ← Option.ne_none_iff_exists', Ne,
    Tree.keyFault?_eq_none_iff v h, not_and_or, not_not, Nat.not_le]

include h in
theorem Tree.textKeys_eq_self (hkeys : v.TextKeyed) (hdepth : v.nesting ≤ Host.keyDepth) :
    v.textKeys = .ok v := by
  rw [h.textKeys_eq_ok v (hkeys.not_longKeyed v) hdepth, h.withTextKeys_eq_self v hkeys]

include h in
/-- Where all keys are texts, only the nesting can stand against turning them. -/
theorem Tree.textKeys_of_deep (hkeys : v.TextKeyed) (hdepth : Host.keyDepth < v.nesting) :
    v.textKeys = .error .tooDeep := by
  obtain ⟨c, hc⟩ := (h.textKeys_fails_iff v).2 (.inr hdepth)
  obtain hlong | - := h.unturnable v Host.keyDepth c ((v.textKeys_eq_error_iff c).1 hc)
  · exact absurd hlong (hkeys.not_longKeyed v)
  · exact hc

end Trees

/-! ### One level -/

def rekeyed (es : Entries) : Entries := es.map fun e => (e.1.asTextKey, e.2.withTextKeys)

theorem keys_rekeyed (es : Entries) :
    Table.keys (rekeyed es) = (Table.keys es).map Scalar.asTextKey := by
  simp [rekeyed, Table.keys]

theorem rekeyed_append (es : Entries) (k : Scalar) (u : Value) (after : Entries) :
    rekeyed (es ++ (k, u) :: after) =
      rekeyed es ++ (k.asTextKey, u.withTextKeys) :: rekeyed after := by
  simp [rekeyed]

theorem get?_last (before after : Entries) (k : Scalar) (u : Value)
    (hlast : ∀ j ∈ Table.keys after, (j == k) = false) :
    Table.get? (before ++ (k, u) :: after).reverse k = some u := by
  have hafter : Table.get? after.reverse k = none := by
    rw [Table.get?_eq_none_iff]
    simpa [Table.keys] using hlast
  rw [List.reverse_append, Table.get?_append, List.reverse_cons, Table.get?_append, hafter]
  simp [Table.get?]

section

variable [Host]

theorem rekeyed_ofEntries (es : Entries)
    (h : ∀ e ∈ es, e.2.textKeys = .ok e.2.withTextKeys) :
    Rekeyed es (Table.ofEntries (rekeyed es)) where
  keys := by rw [(Table.merged_ofEntries (rekeyed es)).first, keys_rekeyed]
  last before k u after hes hlast := by
    refine ⟨u.withTextKeys, h (k, u) (by simp [hes]), ?_⟩
    rw [(Table.merged_ofEntries (rekeyed es)).last, hes, rekeyed_append]
    refine get?_last _ _ _ _ fun t ht => ?_
    rw [keys_rekeyed] at ht
    obtain ⟨j, hj, rfl⟩ := List.mem_map.1 ht
    rw [← Bool.not_eq_true, Scalar.asTextKey_beq_iff]
    exact hlast j hj
  loses_iff := by
    have hlength : (rekeyed es).length = es.length := List.length_map _
    rw [← hlength, Table.length_ofEntries_lt_iff, Table.not_distinct_iff]
    constructor
    · rintro ⟨before, e, after, hes, k, hk, hsame⟩
      obtain ⟨before', rest, rfl, rfl, hrest⟩ := List.map_eq_append_iff.1 hes
      obtain ⟨⟨i, u⟩, after', rfl, rfl, rfl⟩ := List.map_eq_cons_iff.1 hrest
      obtain ⟨j, hj, rfl⟩ := List.mem_map.1 ((keys_rekeyed after').symm ▸ hk)
      exact ⟨before', i, u, after', rfl, j, hj, ((Scalar.asTextKey_beq_iff i j).1 hsame).symm⟩
    · rintro ⟨before, k, u, after, rfl, j, hj, hsame⟩
      refine ⟨rekeyed before, _, rekeyed after, rekeyed_append before k u after, j.asTextKey, ?_,
        (Scalar.asTextKey_beq_iff k j).2 hsame.symm⟩
      rw [keys_rekeyed]
      exact List.mem_map_of_mem hj

theorem Tree.turned (v : Value) (h : v.Tree) (hlong : ¬ v.LongKeyed)
    (hdepth : v.nesting ≤ Host.keyDepth) : v.Turned v.withTextKeys := by
  cases h with
  | scalar s => rfl
  | set members => rfl
  | tuple items h => rfl
  | list items h =>
    rw [longKeyed_list_iff] at hlong
    obtain ⟨-, hitems⟩ := (nesting_list_le_iff _ _).1 hdepth
    rw [Value.withTextKeys, itemsWithTextKeys_eq]
    refine ⟨_, rfl, List.forall₂_map_right_iff.2 (List.forall₂_same.2 fun u hu => ?_)⟩
    exact (h u hu).textKeys_eq_ok u (fun hu' => hlong ⟨u, hu, hu'⟩)
      ((hitems u hu).trans (Nat.sub_le _ 1))
  | mapping es hkeys h =>
    rw [longKeyed_mapping_iff] at hlong
    obtain ⟨-, hentries⟩ := (nesting_mapping_le_iff _ _).1 hdepth
    rw [Value.withTextKeys, entriesWithTextKeys_eq]
    refine ⟨_, rfl, rekeyed_ofEntries es fun e he => ?_⟩
    exact (h e he).textKeys_eq_ok e.2 (fun he' => hlong ⟨e, he, .inr he'⟩)
      ((hentries e he).trans (Nat.sub_le _ 1))

/-- The keys of a tree are turned into texts unless one of them is a number too long to be written,
or the tree is nested deeper than the machine allows. Entries of one text are merged at every level,
all else is kept, texts for keys stay as they are, and so does what has been turned once. -/
theorem textKeys_of_tree (v : Value) (h : v.Tree) :
    ((∃ c, v.textKeys = .error c) ↔ v.LongKeyed ∨ Host.keyDepth < v.nesting) ∧
    (∀ c, v.textKeys = .error c → Unturnable Host.keyDepth v c) ∧
    (¬ v.LongKeyed → v.nesting ≤ Host.keyDepth → ∃ w, v.textKeys = .ok w ∧ v.Turned w) ∧
    (v.TextKeyed → v.nesting ≤ Host.keyDepth → v.textKeys = .ok v) ∧
    ∀ w, v.textKeys = .ok w → w.TextKeyed ∧ w.textKeys = .ok w := by
  refine ⟨h.textKeys_fails_iff v, fun c hc => ?_, fun hlong hdepth => ?_, h.textKeys_eq_self v,
    fun w hw => ?_⟩
  · exact h.unturnable v Host.keyDepth c ((v.textKeys_eq_error_iff c).1 hc)
  · exact ⟨_, h.textKeys_eq_ok v hlong hdepth, h.turned v hlong hdepth⟩
  · have hkeyed := v.textKeyed_of_textKeys w hw
    obtain ⟨⟨-, hdepth⟩, rfl⟩ := (h.textKeys_eq_ok_iff v w).1 hw
    exact ⟨hkeyed, Tree.textKeys_eq_self _ (h.withTextKeys v) hkeyed
      (h.nesting_withTextKeys_le v Host.keyDepth hdepth)⟩

end

theorem textKeys_of_tree_merged :
    let v := list [mapping [(.int 1, text "a"), (.null, .null), (.text "1", text "b")],
      tuple [mapping [(.int 2, .null)]]]
    let w := list [mapping [(.text "1", text "b"), (.text "null", .null)],
      tuple [mapping [(.int 2, .null)]]]
    v.Tree ∧ v.textKeys = .ok w ∧ ¬ v.LongKeyed ∧ v.Turned w ∧ w.TextKeyed ∧
      w.textKeys = .ok w := by
  intro v w
  have hitems : ∀ u ∈ [mapping [(.int 1, text "a"), (.null, .null), (.text "1", text "b")],
      tuple [mapping [(.int 2, .null)]]], u.Tree := by
    refine List.forall_mem_cons.2
      ⟨.mapping _ ?_ ?_, List.forall_mem_singleton.2 (.tuple _ ?_)⟩
    · exact (Table.distinct_iff _).2 (by decide)
    · simp [text, null, Tree.scalar]
    · simpa using Tree.mapping _ (by simp [Table.Distinct]) (by simp [null, Tree.scalar])
  have hv : v.Tree := .list _ hitems
  have hfault : v.keyFault? Host.keyDepth = none := by decide +kernel
  have hw : v.textKeys = .ok w := (v.textKeys_eq_ok_iff w).2 ⟨hfault, rfl⟩
  obtain ⟨hfails, -, hturned, -, hagain⟩ := textKeys_of_tree v hv
  have hdepth : v.nesting ≤ Host.keyDepth := by decide
  have hlong : ¬ v.LongKeyed := fun h => by
    obtain ⟨c, hc⟩ := hfails.2 (.inl h)
    rw [hw] at hc
    cases hc
  obtain ⟨w', hw', hturn⟩ := hturned hlong hdepth
  obtain rfl : w' = w := Except.ok.inj (hw'.symm.trans hw)
  exact ⟨hv, hw, hlong, hturn, hagain _ hw⟩

/-- A number has a text only up to a limit, and a mapping with a longer one for a key is not
turned. -/
theorem textKeys_fails_long_number :
    let v := mapping [(.int (Nat.pow 10 Number.digitLimit), int 1)]
    v.Tree ∧ v.textKeys = .error .tooLongToWrite := by
  -- The number is made a variable, so that the power is never worked out.
  have hall (n : Nat) (hn : n = Nat.pow 10 Number.digitLimit) :
      (mapping [(.int n, int 1)]).Tree ∧
        (mapping [(.int n, int 1)]).textKeys = .error .tooLongToWrite := by
    have hlong : (Scalar.int n).isTooLong = true := by
      rw [Scalar.isTooLong, Number.exceedsLimit, ← hn]
      simp
    refine ⟨.mapping _ (by simp [Table.Distinct]) (by simp [int, Tree.scalar]), ?_⟩
    rw [textKeys_eq_error_iff, keyFault?, if_neg (by decide), entriesKeyFault?, if_pos hlong]
  exact hall _ rfl

end Value

end DotPath

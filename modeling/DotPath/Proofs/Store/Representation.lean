import DotPath.Proofs.Json.Written
import DotPath.Proofs.Settings.Agreement
import DotPath.Proofs.Store.Breaks

set_option autoImplicit false

/-!
What a store holds. However it was built, no key comes twice in it nor in a mapping inside it: where
keys came again in JSON, or came to the same text in YAML, the first place and the last value are
kept. All the ways to look at a store agree, and so does a path of one word.
-/

namespace DotPath

open Text
open Value (Entries)

namespace Store

theorem contains_eq_any (s : Store) (k : Scalar) :
    Table.contains s.entries k = s.keys.any (· == k) := by
  rw [Bool.eq_iff_iff, Table.contains_iff, List.any_eq_true]
  rfl

theorem get_eq (s : Store) (key default : Value) (k : Scalar) (h : key.asKey = .ok k) :
    s.get key default = .ok ((Table.get? s.entries k).getD default) := by
  rw [get, h]
  rfl

end Store

section

variable [Host]

/-- What the text of a document is read as. -/
inductive Document.ReadAs (path : FilePath) (cs : List Char) : Value → Prop where
  | nothing (h : (trim cs).isEmpty ∨ path.isYaml ∧ ∃ u, Yaml.read cs = .ok u ∧ u.isNull) :
    ReadAs path cs (.mapping [])
  | yaml (u v : Value) (hpath : path.isYaml) (hu : Yaml.read cs = .ok u)
    (h : u.loosened.Merges Scalar.asTextKey v) : ReadAs path cs v
  | json (w v : Value) (hpath : ¬ path.isYaml) (hw : Json.written (codePoints cs) = .ok w)
    (h : w.Merges id v) : ReadAs path cs v

theorem Document.readAs_of_read (path : FilePath) (cs : List Char) (v : Value)
    (h : read path cs = .ok v) : ReadAs path cs v ∧ v.Keyed := by
  have hempty : (Value.mapping []).Keyed := .mapping [] .nil (by simp)
  unfold read at h
  split at h
  next hblank =>
    obtain rfl := Except.ok.inj h
    exact ⟨.nothing (.inl hblank), hempty⟩
  next =>
  split at h
  next hpath =>
    unfold readYaml at h
    split at h
    · cases h
    · cases h
    next u hu =>
      split at h
      next hnull =>
        obtain rfl := Except.ok.inj h
        exact ⟨.nothing (.inr ⟨hpath, u, hu, hnull⟩), hempty⟩
      next =>
        obtain ⟨-, rfl⟩ := (u.textKeys_eq_ok_iff v).1 ((mapError_eq_ok_iff _ _ _).1 h)
        have hkeyed := (Yaml.sound_of_read cs u hu).keyed
        exact ⟨.yaml u _ hpath hu (Value.merges_withTextKeys _),
          (hkeyed.loosenedIn u [] (by simp)).withTextKeys⟩
  next hpath =>
    rw [readJson_eq] at h
    have hread := Store.read_of_readText _ v ((mapError_eq_ok_iff _ _ _).1 h)
    obtain ⟨w, hw, hmerges, hkeyed⟩ := Json.exists_written_of_read _ v hread
    exact ⟨.json w v hpath hw hmerges, hkeyed⟩

namespace Store

/-- What the entries of a store come of: the entries of a value, or the JSON text in it. -/
inductive MadeOf (s : Store) : Value → Prop where
  | entries (v : Value) (h : v.entries? = some s.entries) : MadeOf s v
  | json (v : Value) (text : List CodePoint) (w : Value) (htext : json? v = some text)
    (hw : Json.written text = .ok w) (h : w.Merges id (.mapping s.entries)) : MadeOf s v

/-- All that is seen of a store goes back to its list of keys and the values under them. -/
structure ViewsAgree (s : Store) : Prop where
  keys : s.answer .keys = .ok (.list (s.keys.map .scalar))
  iterate : s.answer .iterate = s.answer .keys
  size : s.answer .size = .ok (.int s.keys.length)
  contains : ∀ (key : Value) (k : Scalar), key.asKey = .ok k →
    s.answer (.contains key) = .ok (.bool (s.keys.any (· == k)))
  get_stored : ∀ (key : Value) (k : Scalar), key.asKey = .ok k →
    ∀ e ∈ s.entries, e.1 == k → ∀ default, s.answer (.get key default) = .ok e.2
  get_default : ∀ (key : Value) (k : Scalar), key.asKey = .ok k →
    (∀ j ∈ s.keys, (j == k) = false) → ∀ default, s.answer (.get key default) = .ok default
  path_stored : ∀ k : String, Segment.IsWord k.toList → .text k ∈ s.keys →
    ∀ default, s.answer (.path (.text k)) = s.answer (.get (.text k) default)
  path_missing : ∀ k : String, Segment.IsWord k.toList → .text k ∉ s.keys →
    s.answer (.path (.text k)) =
      .error (Problem.valueNotFound k k Path.nothingThere).failure

theorem eq_of_decode (v w : Value) (h : decode v = .ok w) (ht : json? v = none) : w = v := by
  unfold decode at h
  split at h
  · cases ht
  · cases ht
  next octets =>
    unfold ofOctets at h
    split at h
    · cases h
    next text htext =>
      change (decodeDocument octets).toOption = none at ht
      rw [htext] at ht
      cases ht
  · exact (Except.ok.inj h).symm

theorem made_of_build (v : Value) (s : Store) (hv : v.KeysDistinct) (h : build v = .ok s) :
    s.MadeOf v ∧ (Value.mapping s.entries).KeysDistinct := by
  obtain ⟨w, hw, he, -⟩ := exists_decoded_of_build v s h
  cases htext : json? v with
  | none =>
    obtain rfl := eq_of_decode v w hw htext
    exact ⟨.entries w he, hv.mapping w s.entries he⟩
  | some text =>
    have hread := read_of_decode v w text hw htext
    obtain rfl := Json.eq_mapping_of_read text w s.entries hread he
    obtain ⟨u, hu, hmerges, hkeyed⟩ := Json.exists_written_of_read text _ hread
    exact ⟨.json v text u htext hu hmerges, hkeyed.keysDistinct⟩

theorem views_agree (s : Store) (h : Table.Distinct s.entries) : s.ViewsAgree where
  keys := rfl
  iterate := rfl
  size := by rw [Store.keys, Table.length_keys]; rfl
  contains key k hk := by
    change Value.bool <$> s.contains key = _
    rw [Store.contains, hk, ← contains_eq_any]
    rfl
  get_stored key k hk e he hek default := by
    change s.get key default = _
    rw [get_eq s key default k hk, Table.get?_of_mem s.entries e k h he hek, Option.getD_some]
  get_default key k hk hno default := by
    change s.get key default = _
    rw [get_eq s key default k hk, (Table.get?_eq_none_iff s.entries k).2 hno, Option.getD_none]
  path_stored k hk hmem default := by
    obtain ⟨v, hv⟩ := Option.isSome_iff_exists.1 ((Table.contains_text_iff s.entries k).2 hmem)
    have hpath := Settings.resolve_key s.entries k v (Path.parse_word k hk) hv
    change s.resolve (.text k) = s.get (.text k) default
    rw [get_eq s (.text k) default (.text k) rfl, hv, Option.getD_some]
    exact hpath
  path_missing k hk hno :=
    (hides_of_notMem s k hno).path (.text k) k ⟨k, none⟩ [] rfl (Path.parse_word k hk) rfl

/-- A store of a value is made of it, with distinct keys at every place, and all views of it
agree. -/
structure Represents (s : Store) (v : Value) : Prop where
  made : s.MadeOf v
  distinct : (Value.mapping s.entries).KeysDistinct
  views : s.ViewsAgree

theorem represents_of_build (v : Value) (s : Store) (hv : v.KeysDistinct) (h : build v = .ok s) :
    s.Represents v := by
  obtain ⟨hmade, hdistinct⟩ := made_of_build v s hv h
  exact ⟨hmade, hdistinct, views_agree s (hdistinct [] _ s.entries rfl rfl)⟩

/-- A store that is built of a text, of octets, of a mapping or of a file represents it: each key
once, in its first place and with its last value, at every depth, and seen in the same way by each
view and by path. -/
theorem store_representation :
    (∀ (source : Source) (s : Store), source.content.KeysDistinct →
      build source.content = .ok s → s.Represents source.content) ∧
    ∀ (files : Files) (path : FilePath) (s : Store), (load files path).result = .ok s →
      ∃ cs v, files.Holds path cs ∧ Document.ReadAs path cs v ∧ s.Represents v := by
  refine ⟨fun source s => represents_of_build source.content s, fun files path s h => ?_⟩
  rw [result_load, Document.load_eq_text] at h
  obtain ⟨v, hv, hbuild⟩ := (bind_eq_ok_iff _ _ _).1 h
  obtain ⟨cs, hcs, hread⟩ := (bind_eq_ok_iff _ _ _).1 hv
  obtain ⟨hreads, hkeyed⟩ := Document.readAs_of_read path cs v hread
  exact ⟨cs, v, (Files.text_eq_ok_iff _ _ _ _).1 hcs, hreads,
    represents_of_build v s hkeyed.keysDistinct hbuild⟩

end Store

end

namespace Store

/-- Members come again at two depths of a text, and a number comes to the text that stands beside
it. -/
theorem store_representation_repeated_keys :
    let source : Source :=
      .value (.text "\x7b\"a\": 1, \"b\": \x7b\"c\": 1, \"c\": 2\x7d, \"a\": 3\x7d")
    let s : Store := ⟨[(.text "a", .int 3), (.text "b", .mapping [(.text "c", .int 2)])]⟩
    let files : Files := fun _ => .file (Utf8.encode "\x7b1: x, 2: y, \"1\": z\x7d".toList)
    source.content.KeysDistinct ∧ build source.content = .ok s ∧ s.Represents source.content ∧
      ∃ t, (load files (.ofText "d.yaml")).result = .ok t ∧
        t.entries.map (fun e => (e.1, e.2.text?)) =
          [(.text "1", some "z"), (.text "2", some "y")] ∧
        ∃ cs v, files.Holds (.ofText "d.yaml") cs ∧
          Document.ReadAs (.ofText "d.yaml") cs v ∧ t.Represents v := by
  intro source s files
  have hkeys : source.content.KeysDistinct := (Value.Keyed.scalar _).keysDistinct
  have hbuild : build source.content = .ok s := by rfl
  have hload : ((load files (.ofText "d.yaml")).result.toOption.map fun t =>
      t.entries.map fun e => (e.1, e.2.text?)) =
        some [(.text "1", some "z"), (.text "2", some "y")] := by decide +kernel
  obtain ⟨t, ht, hentries⟩ := Option.map_eq_some_iff.1 hload
  have ht := (toOption_eq_some_iff _ _).1 ht
  exact ⟨hkeys, hbuild, store_representation.1 source s hkeys hbuild, t, ht, hentries,
    store_representation.2 files _ t ht⟩

end Store

end DotPath

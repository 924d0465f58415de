import DotPath.Proofs.Path.Trail
import DotPath.Proofs.Store.Gate
import DotPath.Proofs.Value.TextKeys
import DotPath.Proofs.Yaml.Blank

set_option autoImplicit false

/-!
One YAML file, read as settings and as a document. Where all keys are texts the two come to the same
store, if the document is not too deep for its keys to be looked at. Other keys are turned into
texts in a document only; the settings keep them, and no path leads to what stands under them.
-/

namespace DotPath

open Text Value

theorem Text.isBlank_of_trim (cs : List Char) (h : (trim cs).isEmpty) : ∀ c ∈ cs, isBlank c := by
  have hleft : ∀ c ∈ trimLeft cs, isBlank c := by
    rw [trim, trimRight, List.isEmpty_iff, List.reverse_eq_nil_iff, List.dropWhile_eq_nil_iff] at h
    exact fun c hc => h c (List.mem_reverse.2 hc)
  intro c hc
  rw [← List.takeWhile_append_dropWhile (p := isBlank) (l := cs)] at hc
  obtain hc | hc := List.mem_append.1 hc
  · exact List.mem_takeWhile_imp hc
  · exact hleft c hc

theorem Value.Tree.eq_mapping (v : Value) (m : Entries) (h : v.Tree) (hm : v.entries? = some m) :
    v = .mapping m := by
  cases h with
  | mapping entries => exact congrArg Value.mapping (Option.some.inj hm)
  | _ => cases hm

namespace Settings

section

variable [Host]

/-- A file of settings holds no value, which is an empty mapping, or it holds a mapping. -/
theorem readYaml_cases (path : FilePath) (text : List Char) (v : Value)
    (h : readYaml path text = .ok v) : ∃ u, Yaml.read text = .ok u ∧
      (u.isNull ∧ v = .mapping [] ∨ u.isNull = false ∧ v = u ∧ ∃ m, u.entries? = some m) := by
  unfold readYaml at h
  split at h
  · cases h
  · cases h
  next u hu =>
    refine ⟨u, hu, ?_⟩
    split at h
    next hnull => exact .inl ⟨hnull, (Except.ok.inj h).symm⟩
    next hnull =>
      split at h
      next hm =>
        obtain rfl := Except.ok.inj h
        exact .inr ⟨by simpa using hnull, rfl, Option.isSome_iff_exists.1 hm⟩
      next => cases h

theorem sound_of_readYaml (path : FilePath) (text : List Char) (v : Value)
    (h : readYaml path text = .ok v) : v.Sound ∧ ∃ m, v.entries? = some m := by
  obtain ⟨u, hu, ⟨-, rfl⟩ | ⟨-, rfl, hm⟩⟩ := readYaml_cases path text v h
  · exact ⟨.mapping [] .nil (by simp), [], rfl⟩
  · exact ⟨Yaml.sound_of_read text v hu, hm⟩

section Loaded

variable (files : Files) (path : FilePath) (settings : Settings)
  (hload : (load files path).result = .ok settings)

include hload

/-- Settings that are loaded are what the text of their file is read as. -/
theorem exists_text_of_load : ∃ octets text, files path = .file octets ∧
    Files.textOf octets = .ok text ∧ readYaml path text = .ok settings.source ∧
    Store.build settings.source = .ok settings.store := by
  rw [result_load] at hload
  obtain ⟨v, hv, hof⟩ := (bind_eq_ok_iff _ _ _).1 hload
  obtain ⟨hsource, hstore⟩ := (ofValue_eq_ok_iff v settings).1 hof
  unfold document at hv
  split at hv
  next octets hfile =>
    obtain ⟨text, htext, hread⟩ := (bind_eq_ok_iff _ _ _).1 hv
    obtain ⟨-, m, hm⟩ := sound_of_readYaml path text v hread
    rw [given_of_entries? v m hm] at hsource hstore
    rw [hsource]
    exact ⟨octets, text, hfile, htext, hread, hstore⟩
  next => cases hv
  next => cases hv

/-- Settings that have an end are a tree, and their store is what stands at its top. -/
theorem exists_tree_of_load (hends : settings.source.isEndless = false) :
    ∃ top, settings = ⟨.mapping top, ⟨top⟩⟩ ∧ (Value.mapping top).Tree := by
  obtain ⟨_, text, -, -, hread, hstore⟩ := exists_text_of_load files path settings hload
  obtain ⟨hsound, m, hm⟩ := sound_of_readYaml path text _ hread
  have htree := hsound.tree _ (by simp [hends])
  have hsource := htree.eq_mapping _ m hm
  rw [hsource] at htree hstore
  obtain ⟨k, -, hk⟩ | ⟨-, hk⟩ := Store.ofEntries_cases m
  · rw [Store.build_of_decode _ _ m rfl rfl, hk] at hstore
    cases hstore
  · rw [Store.build_of_decode _ _ m rfl rfl, hk] at hstore
    refine ⟨m, ?_, htree⟩
    rw [← hsource, Except.ok.inj hstore]

/-- The document in the file is the source of the settings if the keys in it are texts and it is not
too deep. -/
theorem document_of_textKeyed (hyaml : path.isYaml) (hends : settings.source.isEndless = false)
    (hkeys : settings.source.TextKeyed) :
    (settings.source.nesting ≤ Host.keyDepth →
      (Document.load files path).result = .ok settings.source) ∧
    (Host.keyDepth < settings.source.nesting →
      (Document.load files path).result = .error (.crash .tooDeep)) := by
  obtain ⟨octets, text, hfile, htext, hread, -⟩ := exists_text_of_load files path settings hload
  obtain ⟨u, hu, hcases⟩ := readYaml_cases path text _ hread
  have hresult : (Document.load files path).result = Document.read path text := by
    rw [Document.result_load, hfile]
    dsimp only
    rw [htext]
    rfl
  -- Nothing given is an empty mapping, and not too deep for any machine.
  have hempty (hsource : settings.source = .mapping [])
      (hdocument : Document.read path text = .ok (.mapping [])) :
      (settings.source.nesting ≤ Host.keyDepth →
        Document.read path text = .ok settings.source) ∧
      (Host.keyDepth < settings.source.nesting →
        Document.read path text = .error (.crash .tooDeep)) := by
    rw [hsource, hdocument]
    have hpos := Host.keyDepth_pos
    exact ⟨fun _ => rfl, fun hdeep => absurd hdeep (Nat.not_lt.2 hpos)⟩
  rw [hresult]
  by_cases hblank : (trim text).isEmpty
  · -- The settings read a blank file as YAML, too; nothing but a scalar comes of it.
    obtain ⟨s, rfl⟩ := Yaml.exists_scalar_of_read text u (isBlank_of_trim text hblank) hu
    obtain ⟨-, hsource⟩ | ⟨-, -, m, hm⟩ := hcases
    · exact hempty hsource (by rw [Document.read, if_pos hblank])
    · cases hm
  · have hyamlRead : Document.read path text =
        if u.isNull then .ok (.mapping []) else u.textKeys.mapError .crash := by
      rw [Document.read, if_neg hblank, if_pos hyaml, Document.readYaml, hu]
    obtain ⟨hnull, hsource⟩ | ⟨hnull, hsource, -⟩ := hcases
    · exact hempty hsource (by rw [hyamlRead, if_pos hnull])
    · have htree := (Yaml.sound_of_read text u hu).tree u (by simp [← hsource, hends])
      rw [hyamlRead, if_neg (by simp [hnull]), hsource]
      rw [hsource] at hkeys
      refine ⟨fun hdepth => ?_, fun hdeep => ?_⟩
      · rw [htree.textKeys_eq_self u hkeys hdepth]
        rfl
      · rw [htree.textKeys_of_deep u hkeys hdeep]
        rfl

theorem load_of_textKeyed (hyaml : path.isYaml) (hends : settings.source.isEndless = false)
    (hkeys : settings.source.TextKeyed) :
    (settings.source.nesting ≤ Host.keyDepth →
      (Store.load files path).result = .ok settings.store) ∧
    (Host.keyDepth < settings.source.nesting →
      (Store.load files path).result = .error (.crash .tooDeep)) := by
  obtain ⟨_, _, -, -, -, hstore⟩ := exists_text_of_load files path settings hload
  obtain ⟨hok, hdeep⟩ := document_of_textKeyed files path settings hload hyaml hends hkeys
  rw [Store.result_load]
  refine ⟨fun hdepth => ?_, fun hdepth => ?_⟩
  · rw [hok hdepth]
    exact hstore
  · rw [hdeep hdepth]
    rfl

end Loaded

end

end Settings

namespace Path

/-- The hop goes by a text or by a number. -/
def HasText : Hop → Prop
  | .key k => k.kind = .string
  | .item _ => True

theorem hasText_trailPast (target : Value) (index : Option Int) (rest : Value → Trail)
    (hrest : ∀ u, ∀ h ∈ rest u, HasText h) : ∀ h ∈ trailPast target index rest, HasText h := by
  cases hpick : pick target index with
  | error p =>
    rw [trailPast_of_error target index rest p hpick]
    nofun
  | ok u =>
    rw [trailPast_of_ok target u index rest hpick]
    intro h hh
    obtain hhop | hhop := List.mem_append.1 hh
    · unfold hopOf at hhop
      split at hhop
      · obtain rfl := List.mem_singleton.1 hhop
        trivial
      · cases hhop
    · exact hrest u h hhop

theorem hasText_trailFrom (v : Value) (ss : List Segment) : ∀ h ∈ trailFrom v ss, HasText h := by
  induction ss generalizing v with
  | nil => exact List.forall_mem_nil _
  | cons s ss ih =>
    rw [trailFrom]
    split
    · exact List.forall_mem_nil _
    · exact List.forall_mem_cons.2 ⟨rfl, by simp⟩
    next target _ _ =>
      refine List.forall_mem_cons.2 ⟨rfl, ?_⟩
      split
      · exact List.forall_mem_nil _
      · exact hasText_trailPast target s.index _ ih

/-- A path goes by texts and by numbers of elements. -/
theorem hasText_trail (top : Entries) (ss : List Segment) : ∀ h ∈ trail top ss, HasText h := by
  cases ss with
  | nil => exact List.forall_mem_nil _
  | cons s ss =>
    rw [trail]
    refine List.forall_mem_cons.2 ⟨rfl, ?_⟩
    split
    · exact List.forall_mem_nil _
    next target _ => exact hasText_trailPast target s.index _ (hasText_trailFrom · ss)

/-- A container on the way to a place in a value; it holds what stands under a key there. -/
def Holds (v : Value) (place : Trail) (k : Scalar) (u : Value) : Prop :=
  ∃ before after, place = before ++ after ∧ v.along? before = some u ∧ u.kind.isContainer ∧
    (u.along? (after ++ [.key k])).isSome

section Replaced

variable (top : Entries) (place : Trail) (k : Scalar) (w : Value) (hk : k.kind ≠ .string)
  (hl : ((mapping top).along? (place ++ [.key k])).isSome)

include hl in
theorem exists_withAlong : ∃ top', withAlong w (place ++ [.key k]) (mapping top) = mapping top' ∧
    Table.keys top' = Table.keys top := by
  obtain ⟨h, t, heq⟩ := List.exists_cons_of_ne_nil (List.concat_ne_nil (.key k) place)
  rw [heq] at hl ⊢
  obtain ⟨j, u, -, hj, -, htop⟩ := withAlong_mapping top w h t hl
  exact ⟨_, htop, Table.keys_put_of_contains top j _ (by simp [Table.contains, hj])⟩

include hk hl in
/-- What stands under a key that is no text makes no difference to a path, unless the path leads to
what holds it. -/
theorem resolve_replaced (top' : Entries)
    (htop : withAlong w (place ++ [.key k]) (mapping top) = mapping top') (path : String) :
    resolve top' path = resolve top path ∨
      ∃ u, resolve top path = .ok u ∧ Holds (mapping top) place k u := by
  cases hp : parse path with
  | error f =>
    rw [resolve, resolve, hp]
    exact .inl rfl
  | ok ss =>
    rw [resolve_of_parse top' path ss hp, resolve_of_parse top path ss hp]
    have hno : ¬ place ++ [.key k] <+: trail top ss := fun h =>
      hk (hasText_trail top ss (.key k) (h.subset (by simp)))
    have hsame (hend : trail top ss <+: place ++ [.key k] → ∃ p, walk path top ss = .error p) :
        walk path top' ss = walk path top ss := by
      obtain ⟨other, hother, hwalk⟩ := walk_withAlong w path top ss _ hl hno hend
      obtain rfl := Value.mapping.inj (htop.symm.trans hother)
      exact hwalk
    have hleads := leadsTo_trail path top ss
    cases hwalk : walk path top ss with
    | error p =>
      left
      rw [hsame fun _ => ⟨p, hwalk⟩, hwalk]
    | ok u =>
      rw [hwalk] at hleads
      by_cases hprefix : trail top ss <+: place ++ [.key k]
      · obtain hwhole | ⟨after, hafter⟩ := List.prefix_concat_iff.1 hprefix
        · exact absurd (hwhole ▸ List.prefix_refl _) hno
        · have hu : (u.along? (after ++ [.key k])).isSome := by
            rw [← hafter, List.append_assoc, along?_append,
              show (mapping top).along? _ = _ from hleads] at hl
            exact hl
          exact .inr ⟨u, rfl, trail top ss, after, hafter.symm, hleads,
            u.isContainer_of_along? _ hu (by simp), hu⟩
      · left
        rw [hsame fun h => absurd h hprefix, hwalk]

end Replaced

end Path

namespace Settings

/-- Settings answer as a store does, the default standing for null and for a problem. -/
def AnswersAs (settings : Settings) (store : Store) : Prop :=
  ∀ key default,
    (∀ v, store.resolve key = .ok v →
      settings.get key default = .ok (if v.isNull then default else v)) ∧
    ∀ p cause, store.resolve key = .error (.problem p cause) →
      settings.get key default = .ok default

theorem answersAs_store (settings : Settings) : settings.AnswersAs settings.store := by
  intro key default
  refine ⟨fun v hv => ?_, fun p cause hp => ?_⟩
  · rw [get, hv]
  · rw [get, hp]

/-- Settings of a mapping with the keys of another at its top are built if those of the other
are. -/
theorem ofValue_of_keys [Host] (top top' : Entries) (hkeys : Table.keys top' = Table.keys top)
    (h : Store.build (.mapping top) = .ok ⟨top⟩) :
    ofValue (.mapping top') = .ok ⟨.mapping top', ⟨top'⟩⟩ := by
  have hbuild : Store.build (.mapping top') = .ok ⟨top'⟩ := by
    rw [Store.build_of_decode _ _ top' rfl rfl]
    obtain ⟨r, hr, -⟩ | ⟨-, hout⟩ := Store.ofEntries_cases top'
    · obtain ⟨hreserved, hmem⟩ := hr.mem
      rw [hkeys] at hmem
      exact absurd hmem (Store.reserved_notMem_of_build _ _ h r hreserved)
    · exact hout
  rw [ofValue_eq_ok_iff, given_of_entries? _ top' rfl]
  exact ⟨rfl, hbuild⟩

/-- What stands under a key that is no text makes no difference to an answer that does not hold
it. -/
theorem get_replaced (top top' : Entries) (place : Trail) (k : Scalar) (w : Value)
    (hk : k.kind ≠ .string) (hl : ((Value.mapping top).along? (place ++ [.key k])).isSome)
    (htop : withAlong w (place ++ [.key k]) (.mapping top) = .mapping top') (key default : Value) :
    get ⟨.mapping top', ⟨top'⟩⟩ key default = get ⟨.mapping top, ⟨top⟩⟩ key default ∨
      ∃ u, get ⟨.mapping top, ⟨top⟩⟩ key default = .ok u ∧ Path.Holds (.mapping top) place k u := by
  cases hpath : key.plainText? with
  | none =>
    left
    simp only [get, Store.resolve, Path.resolveAny, hpath]
  | some path =>
    have hresolve (entries : Entries) :
        (Store.mk entries).resolve key = Path.resolve entries path := by
      rw [Store.resolve, Path.resolveAny, hpath]
    obtain hsame | ⟨u, hu, hholds⟩ := Path.resolve_replaced top place k w hk hl top' htop path
    · left
      rw [get, get, hresolve, hresolve, hsame]
    · obtain ⟨before, after, -, -, hcontainer, -⟩ := id hholds
      right
      refine ⟨u, ?_, hholds⟩
      rw [get, hresolve, hu]
      dsimp only
      rw [Path.isNull_of_isContainer u hcontainer]
      rfl

theorem resolve_key (entries : Entries) (key : String) (v : Value)
    (hparse : Path.parse key = .ok [⟨key, none⟩]) (hv : Table.get? entries (.text key) = some v) :
    (Store.mk entries).resolve (.text key) = .ok v := by
  change Path.resolve entries key = _
  rw [Path.resolve_of_parse entries key _ hparse, Path.walk,
    Path.enterTop_found key entries ⟨key, none⟩ v hv]
  rfl

theorem load_number_key :
    (load (fun _ => .file (Utf8.encode "1: 2".toList)) (.ofText "d.yaml")).result =
      .ok ⟨.mapping [(.int 1, .int 2)], ⟨[(.int 1, .int 2)]⟩⟩ := by
  cbv

/-- A number is a key of the document, as a text, and none of the settings. -/
theorem exists_disagreement :
    ∃ (files : Files) (path : FilePath) (settings : Settings) (store : Store), path.isYaml ∧
      (load files path).result = .ok settings ∧ settings.source.isEndless = false ∧
      (Store.load files path).result = .ok store ∧ ¬ settings.AnswersAs store := by
  have hstore : ((Store.load (fun _ => .file (Utf8.encode "1: 2".toList))
      (.ofText "d.yaml")).result.toOption.bind fun store =>
        (Table.get? store.entries (.text "1")).map isNull) = some false := by decide +kernel
  have hget : get ⟨.mapping [(.int 1, .int 2)], ⟨[(.int 1, .int 2)]⟩⟩ (.text "1") .null =
      .ok .null := by cbv
  obtain ⟨store, hstore, hvalue⟩ := Option.bind_eq_some_iff.1 hstore
  obtain ⟨v, hv, hnull⟩ := Option.map_eq_some_iff.1 hvalue
  refine ⟨_, _, _, store, by decide +kernel, load_number_key, rfl,
    (toOption_eq_some_iff _ _).1 hstore, fun hanswers => ?_⟩
  have hanswer := (hanswers (.text "1") .null).1 v (resolve_key _ "1" v (by cbv) hv)
  rw [hget, hnull] at hanswer
  cases hanswer
  cases hnull

/-- Settings loaded of a YAML file whose values have an end answer as the store of that file does,
if all keys that mappings and lists lead to are texts; only where these are nested too deep for the
machine is there no store. Of other keys the settings know nothing: another value under such a key,
at whatever place, changes no answer but those that hold it. A store may well know of them, as on
the standard machine. -/
theorem load_agrees_with_store [Host] (files : Files) (path : FilePath) (settings : Settings) :
    (path.isYaml → (load files path).result = .ok settings → settings.source.isEndless = false →
      (settings.source.TextKeyed →
        (settings.source.nesting ≤ Host.keyDepth →
          ∃ store, (Store.load files path).result = .ok store ∧ settings.AnswersAs store) ∧
        (Host.keyDepth < settings.source.nesting →
          (Store.load files path).result = .error (.crash .tooDeep))) ∧
      ∀ (place : Trail) (k : Scalar) (w : Value), k.kind ≠ .string →
        (settings.source.along? (place ++ [.key k])).isSome →
        ∃ changed, ofValue (withAlong w (place ++ [.key k]) settings.source) = .ok changed ∧
          ∀ key default, changed.get key default = settings.get key default ∨
            ∃ u, settings.get key default = .ok u ∧ Path.Holds settings.source place k u) ∧
    ∃ (files : Files) (path : FilePath) (settings : Settings) (store : Store), path.isYaml ∧
      (@load .standard files path).result = .ok settings ∧ settings.source.isEndless = false ∧
      (@Store.load .standard files path).result = .ok store ∧ ¬ settings.AnswersAs store := by
  refine ⟨fun hyaml hload hends => ⟨fun hkeys => ?_, fun place k w hk hl => ?_⟩,
    exists_disagreement⟩
  · obtain ⟨hok, hdeep⟩ := load_of_textKeyed files path settings hload hyaml hends hkeys
    exact ⟨fun hdepth => ⟨settings.store, hok hdepth, settings.answersAs_store⟩, hdeep⟩
  · obtain ⟨_, _, -, -, -, hstore⟩ := exists_text_of_load files path settings hload
    obtain ⟨top, rfl, -⟩ := exists_tree_of_load files path settings hload hends
    obtain ⟨top', htop, hkeys⟩ := Path.exists_withAlong top place k w hl
    refine ⟨⟨.mapping top', ⟨top'⟩⟩, ?_, get_replaced top top' place k w hk hl htop⟩
    rw [htop]
    exact ofValue_of_keys top top' hkeys hstore

theorem load_text_key :
    (load (fun _ => .file (Utf8.encode "a: 1".toList)) (.ofText "d.yaml")).result =
      .ok ⟨.mapping [(.text "a", .int 1)], ⟨[(.text "a", .int 1)]⟩⟩ := by
  cbv

theorem load_agrees_with_store_files :
    let files (text : String) : Files := fun _ => .file (Utf8.encode text.toList)
    let path : FilePath := .ofText "d.yaml"
    let place : Trail := [.key (.text "a"), .item 0]
    (∃ settings store, (load (files "a: 1") path).result = .ok settings ∧
      (Store.load (files "a: 1") path).result = .ok store ∧ settings.AnswersAs store) ∧
    ∃ settings changed, (load (files "a: [\x7b1: x\x7d]") path).result = .ok settings ∧
      ofValue (withAlong .null (place ++ [.key (.int 1)]) settings.source) = .ok changed ∧
      ∀ key default, changed.get key default = settings.get key default ∨
        ∃ u, settings.get key default = .ok u ∧ Path.Holds settings.source place (.int 1) u := by
  intro files path place
  have hyaml : path.isYaml := by decide +kernel
  have hkeys : (Value.mapping [(.text "a", .int 1)]).TextKeyed :=
    .mapping _ (by simp [Scalar.kind]) (by simpa using .scalar (.int 1))
  have hnested : ((load (files "a: [\x7b1: x\x7d]") path).result.toOption.map fun s =>
      (s.source.isEndless, (s.source.along? (place ++ [.key (.int 1)])).isSome)) =
        some (false, true) := by decide +kernel
  obtain ⟨settings, hsettings, hfacts⟩ := Option.map_eq_some_iff.1 hnested
  have hsettings := (toOption_eq_some_iff _ _).1 hsettings
  obtain ⟨hagrees, -⟩ :=
    (load_agrees_with_store (files "a: 1") path _).1 hyaml load_text_key rfl
  obtain ⟨store, hstore, hanswers⟩ := (hagrees hkeys).1 (by decide)
  obtain ⟨-, hreplaced⟩ :=
    (load_agrees_with_store (files "a: [\x7b1: x\x7d]") path settings).1 hyaml hsettings
      (Prod.mk.inj hfacts).1
  obtain ⟨changed, hchanged, hget⟩ :=
    hreplaced place (.int 1) .null (by decide) (Prod.mk.inj hfacts).2
  exact ⟨⟨_, store, load_text_key, hstore, hanswers⟩, settings, changed, hsettings, hchanged, hget⟩

/-- A machine that can look at the keys of one mapping alone. -/
@[reducible] def narrow : Host := { Host.standard with keyDepth := 1, keyDepth_pos := Nat.one_pos }

theorem load_nested :
    (@load narrow (fun _ => .file (Utf8.encode "a: []".toList)) (.ofText "d.yaml")).result =
      .ok ⟨.mapping [(.text "a", .list [])], ⟨[(.text "a", .list [])]⟩⟩ := by
  cbv

/-- A file with a list in a mapping holds settings, but on such a machine no store comes of it. -/
theorem load_fails_too_deep :
    let files : Files := fun _ => .file (Utf8.encode "a: []".toList)
    let path : FilePath := .ofText "d.yaml"
    ∃ settings, (@load narrow files path).result = .ok settings ∧
      settings.source.isEndless = false ∧ settings.source.TextKeyed ∧
      (@Store.load narrow files path).result = .error (.crash .tooDeep) := by
  intro files path
  have hyaml : path.isYaml := by decide +kernel
  have htexts : (Value.mapping [(.text "a", .list [])]).TextKeyed :=
    .mapping _ (by simp [Scalar.kind]) (by simpa using .list [] (by simp))
  have hdeep := (@load_of_textKeyed narrow files path _ load_nested hyaml rfl htexts).2
  exact ⟨_, load_nested, rfl, htexts, hdeep Nat.one_lt_two⟩

end Settings

end DotPath

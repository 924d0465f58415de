import DotPath.Proofs.Json.Members
import DotPath.Proofs.Path.Walk
import DotPath.Store.Session

set_option autoImplicit false

/-!
The gate before a store. Whatever a store is built of, the keys are looked at that its top level has
when it has been decoded, and the store is refused just when one of them is reserved. What passes is
kept as it is, and there is no way to a reserved key in it.
-/

namespace DotPath

open Text
open Value (Entries)

namespace Settings

/-- The value that settings are made of. -/
def given (v : Value) : Value := if v.isNothing then .mapping [] else v

theorem given_of_entries? (v : Value) (entries : Entries) (h : v.entries? = some entries) :
    given v = v := by
  cases v with
  | mapping es => cases es <;> rfl
  | scalar s => cases h
  | list items => cases h
  | tuple items => cases h
  | set members => cases h
  | knot label body => rfl
  | again label => rfl

/-- The failure of settings whose store cannot be built. -/
def invalid : Failure → Failure
  | .problem p _ =>
    .problem (.configInvalid s!"Invalid configuration: {p.message}") (some (.problem p.kind))
  | .crash c => .crash c

variable [Host]

theorem ofValue_eq (v : Value) :
    ofValue v = (⟨given v, ·⟩) <$> (Store.build (given v)).mapError invalid := by
  cases hb : Store.build (given v) with
  | ok s => simp [ofValue, ← given.eq_1, hb, Except.mapError]
  | error f => cases f <;> simp [ofValue, ← given.eq_1, hb, Except.mapError, invalid]

theorem store_ofValue (v : Value) :
    Settings.store <$> ofValue v = (Store.build (given v)).mapError invalid := by
  rw [ofValue_eq, Functor.map_map]
  exact id_map _

theorem ofValue_eq_ok_iff (v : Value) (settings : Settings) :
    ofValue v = .ok settings ↔
      settings.source = given v ∧ Store.build (given v) = .ok settings.store := by
  rw [ofValue_eq, map_eq_ok_iff]
  simp only [mapError_eq_ok_iff]
  constructor
  · rintro ⟨store, hstore, rfl⟩
    exact ⟨rfl, hstore⟩
  · rintro ⟨hsource, hstore⟩
    exact ⟨settings.store, hstore, by rw [← hsource]⟩

end Settings

namespace Store

/-- The first of the reserved keys that stands in entries. -/
def FirstReserved (entries : Entries) (k : String) : Prop :=
  ∃ before after, reservedKeys = before ++ k :: after ∧ .text k ∈ Table.keys entries ∧
    ∀ j ∈ before, .text j ∉ Table.keys entries

theorem FirstReserved.mem {entries : Entries} {k : String} (h : FirstReserved entries k) :
    k ∈ reservedKeys ∧ .text k ∈ Table.keys entries := by
  obtain ⟨before, after, hkeys, hk, -⟩ := h
  exact ⟨by simp [hkeys], hk⟩

/-- An outcome of the gate for some entries, `refusal` telling how a key is refused. -/
structure Gated (refusal : String → Failure) (entries : Entries)
    (outcome : Except Failure Store) : Prop where
  fails_iff : (∃ f, outcome = .error f) ↔ ∃ k ∈ reservedKeys, .text k ∈ Table.keys entries
  first : ∀ f, outcome = .error f → ∃ k, FirstReserved entries k ∧ f = refusal k
  kept : ∀ s, outcome = .ok s → s.entries = entries

theorem ofEntries_cases (entries : Entries) :
    (∃ k, FirstReserved entries k ∧ ofEntries entries = .error (Problem.forbiddenKey k).failure) ∨
      (∀ k ∈ reservedKeys, .text k ∉ Table.keys entries) ∧ ofEntries entries = .ok ⟨entries⟩ := by
  unfold ofEntries
  split
  next k h =>
    obtain ⟨hk, before, after, hkeys, hbefore⟩ := List.find?_eq_some_iff_append.1 h
    refine .inl ⟨k, ⟨before, after, hkeys, (Table.contains_text_iff entries k).1 hk, ?_⟩, rfl⟩
    intro j hj hmem
    have hno := hbefore j hj
    simp [(Table.contains_text_iff entries j).2 hmem] at hno
  next h =>
    refine .inr ⟨fun k hk hmem => ?_, rfl⟩
    exact List.find?_eq_none.1 h k hk ((Table.contains_text_iff entries k).2 hmem)

theorem FirstReserved.ofEntries_eq {entries : Entries} {k : String} (h : FirstReserved entries k) :
    ofEntries entries = .error (Problem.forbiddenKey k).failure := by
  obtain ⟨before, after, hkeys, hk, hbefore⟩ := h
  have hfind : reservedKeys.find? (fun k => Table.contains entries (.text k)) = some k := by
    refine List.find?_eq_some_iff_append.2
      ⟨(Table.contains_text_iff entries k).2 hk, before, after, hkeys, fun j hj => ?_⟩
    rw [Bool.not_eq_true', ← Bool.not_eq_true, Table.contains_text_iff]
    exact hbefore j hj
  rw [ofEntries, hfind]

theorem gated_ofEntries (entries : Entries) :
    Gated (fun k => (Problem.forbiddenKey k).failure) entries (ofEntries entries) := by
  obtain ⟨k, hk, hout⟩ | ⟨hno, hout⟩ := ofEntries_cases entries
  · rw [hout]
    exact ⟨iff_of_true ⟨_, rfl⟩ ⟨k, hk.mem⟩, fun f hf => ⟨k, hk, (Except.error.inj hf).symm⟩,
      nofun⟩
  · rw [hout]
    exact ⟨iff_of_false (by simp) (by simpa using hno), nofun,
      fun s hs => congrArg Store.entries (Except.ok.inj hs).symm⟩

theorem Gated.mapError {refusal : String → Failure} {entries : Entries}
    {outcome : Except Failure Store} (h : Gated refusal entries outcome) (g : Failure → Failure) :
    Gated (fun k => g (refusal k)) entries (outcome.mapError g) := by
  cases hout : outcome with
  | ok s =>
    refine ⟨?_, nofun, fun t ht => h.kept t (hout.trans ht)⟩
    rw [← h.fails_iff, hout]
    simp [Except.mapError]
  | error f =>
    obtain ⟨k, hk, hf⟩ := h.first f hout
    exact ⟨iff_of_true ⟨_, rfl⟩ (h.fails_iff.1 ⟨f, hout⟩),
      fun f' hf' => ⟨k, hk, by rw [← hf, ← Except.error.inj hf']⟩, nofun⟩

def shapeless (typeName : String) : Failure :=
  malformed s!"PathMap: can't iterate over key/value pairs of {typeName}" none

/-- The store of a decoded top level. -/
def ofTop (v : Value) : Except Failure Store :=
  match v.entries? with
  | some entries => ofEntries entries
  | none => .error (shapeless v.typeName)

section

variable [Host]

theorem build_eq (v : Value) : build v = decode v >>= ofTop := rfl

theorem decode_of_entries? (v : Value) (entries : Entries) (h : v.entries? = some entries) :
    decode v = .ok v := by
  cases v with
  | scalar s => cases h
  | _ => rfl

theorem build_of_decode (v w : Value) (entries : Entries) (h : decode v = .ok w)
    (he : w.entries? = some entries) : build v = ofEntries entries := by
  rw [build_eq, h]
  change ofTop w = _
  rw [ofTop, he]

theorem exists_decoded_of_build (v : Value) (s : Store) (h : build v = .ok s) :
    ∃ w, decode v = .ok w ∧ w.entries? = some s.entries ∧
      ∀ k ∈ reservedKeys, .text k ∉ s.keys := by
  rw [build_eq] at h
  obtain ⟨w, hw, htop⟩ := (bind_eq_ok_iff _ _ _).1 h
  refine ⟨w, hw, ?_⟩
  unfold ofTop at htop
  split at htop
  next entries he =>
    obtain ⟨j, -, hout⟩ | ⟨hno, hout⟩ := ofEntries_cases entries
    · rw [hout] at htop
      cases htop
    · rw [hout] at htop
      obtain rfl := Except.ok.inj htop
      exact ⟨he, hno⟩
  next => cases htop

theorem reserved_notMem_of_build (v : Value) (s : Store) (h : build v = .ok s) (k : String)
    (hk : k ∈ reservedKeys) : .text k ∉ s.keys := by
  obtain ⟨-, -, -, hno⟩ := exists_decoded_of_build v s h
  exact hno k hk

/-- A store does not let a key be seen: it is not listed, it is not found, and a path that begins
with it leads nowhere. -/
structure Hides (s : Store) (k : String) : Prop where
  keys : ∃ ks, s.answer .keys = .ok (.list ks) ∧ .text k ∉ ks
  iterate : ∃ ks, s.answer .iterate = .ok (.list ks) ∧ .text k ∉ ks
  contains : s.answer (.contains (.text k)) = .ok (.bool false)
  get : ∀ default, s.answer (.get (.text k) default) = .ok default
  path : ∀ (path : Value) (p : String) (t : Segment) (ts : List Segment),
    path.plainText? = some p → Path.parse p = .ok (t :: ts) → t.key = k →
      s.answer (.path path) = .error (Problem.valueNotFound k p Path.nothingThere).failure

theorem hides_of_notMem (s : Store) (k : String) (h : .text k ∉ s.keys) : Hides s k := by
  have hlist : Value.text k ∉ s.keys.map .scalar := by
    simpa [Value.text] using h
  have hcontains : Table.contains s.entries (.text k) = false := by
    rw [← Bool.not_eq_true, Table.contains_text_iff]
    exact h
  have hget : Table.get? s.entries (.text k) = none := by simpa [Table.contains] using hcontains
  refine ⟨⟨_, rfl, hlist⟩, ⟨_, rfl, hlist⟩, ?_, fun default => ?_, ?_⟩
  · change Except.ok (Value.bool (Table.contains s.entries (.text k))) = _
    rw [hcontains]
  · change Except.ok ((Table.get? s.entries (.text k)).getD default) = _
    rw [hget, Option.getD_none]
  · intro path p t ts hpath hparse ht
    have hmissing : Path.enterTop p s.entries t =
        .error (.valueNotFound k p Path.nothingThere) := by
      rw [Path.enterTop, ht, hget]
    have hwalk : Path.walk p s.entries (t :: ts) =
        .error (.valueNotFound k p Path.nothingThere) := by
      rw [Path.walk, hmissing]
      rfl
    change Path.resolveAny s.entries path = _
    rw [Path.resolveAny, hpath]
    change Path.resolve s.entries p = _
    rw [Path.resolve_of_parse _ p _ hparse, hwalk]
    rfl

/-- What a store is built of, and by which way. -/
inductive Route where
  | source (s : Source)
  | file (files : Files) (path : FilePath)
  | settings (v : Value)
  | settingsFile (files : Files) (path : FilePath)

/-- The JSON text in a value. -/
def json? : Value → Option (List CodePoint)
  | .scalar (.text s) => some (codePoints s.toList)
  | .scalar (.ragged ps) => some ps
  | .scalar (.bytes octets) => (decodeDocument octets).toOption
  | _ => none

theorem read_of_readText (text : List CodePoint) (v : Value) (h : Json.readText text = .ok v) :
    Json.read text = .ok v := by
  unfold Json.readText at h
  split at h
  · cases h
  · exact h

theorem read_of_decode (v w : Value) (text : List CodePoint) (h : decode v = .ok w)
    (ht : json? v = some text) : Json.read text = .ok w := by
  unfold json? at ht
  split at ht
  · obtain rfl := Option.some.inj ht
    exact read_of_readText _ w ((mapError_eq_ok_iff _ _ _).1 h)
  · obtain rfl := Option.some.inj ht
    exact read_of_readText _ w ((mapError_eq_ok_iff _ _ _).1 h)
  next octets =>
    change ofOctets octets = .ok w at h
    rw [ofOctets, (toOption_eq_some_iff _ _).1 ht] at h
    exact (mapError_eq_ok_iff _ _ _).1 h
  · cases ht

namespace Route

/-- The document, decoded and with texts for keys where the way gives it such. -/
def decoded : Route → Except Failure Value
  | source s => decode s.content
  | file files path => (Document.load files path).result
  | settings v => decode (Settings.given v)
  | settingsFile files path => Settings.document files path

def construct : Route → Except Failure Store
  | source s => build s.content
  | file files path => (load files path).result
  | settings v => Settings.store <$> Settings.ofValue v
  | settingsFile files path => Settings.store <$> (Settings.load files path).result

def refusal : Route → String → Failure
  | source _, k | file _ _, k => (Problem.forbiddenKey k).failure
  | settings _, k | settingsFile _ _, k =>
    .problem (.configInvalid ("Invalid configuration: " ++ Wording.forbiddenKey k))
      (some (.problem .forbiddenKey))

/-- The JSON text of the document, if it is such. -/
def text? : Route → Option (List CodePoint)
  | source s => json? s.content
  | file files path =>
    match files path with
    | .file octets => do
      let text ← (Files.textOf octets).toOption
      if (trim text).isEmpty || path.isYaml then none else some (codePoints text)
    | _ => none
  | settings v => json? (Settings.given v)
  | settingsFile _ _ => none

theorem gated_construct (r : Route) (v : Value) (entries : Entries) (h : r.decoded = .ok v)
    (he : v.entries? = some entries) : Gated r.refusal entries r.construct := by
  have hsettings := (gated_ofEntries entries).mapError Settings.invalid
  cases r with
  | source s =>
    change Gated _ _ (build s.content)
    rw [build_of_decode _ v entries h he]
    exact gated_ofEntries entries
  | file files path =>
    change Gated _ _ (load files path).result
    rw [result_load, show (Document.load files path).result = .ok v from h]
    change Gated _ _ (build v)
    rw [build_of_decode v v entries (decode_of_entries? v entries he) he]
    exact gated_ofEntries entries
  | settings u =>
    change Gated _ _ (Settings.store <$> Settings.ofValue u)
    rw [Settings.store_ofValue, build_of_decode _ v entries h he]
    exact hsettings
  | settingsFile files path =>
    change Gated _ _ (Settings.store <$> (Settings.load files path).result)
    rw [Settings.result_load, show Settings.document files path = .ok v from h]
    change Gated _ _ (Settings.store <$> Settings.ofValue v)
    rw [Settings.store_ofValue, Settings.given_of_entries? v entries he,
      build_of_decode v v entries (decode_of_entries? v entries he) he]
    exact hsettings

theorem read_of_decoded (r : Route) (v : Value) (text : List CodePoint) (h : r.decoded = .ok v)
    (ht : r.text? = some text) : Json.read text = .ok v := by
  cases r with
  | source s => exact read_of_decode _ v text h ht
  | settings u => exact read_of_decode _ v text h ht
  | settingsFile files path => cases ht
  | file files path =>
    change (Document.load files path).result = .ok v at h
    rw [Document.result_load] at h
    simp only [text?] at ht
    cases hfile : files path with
    | absent => simp [hfile] at ht
    | refused message => simp [hfile] at ht
    | file octets =>
      rw [hfile] at h ht
      obtain ⟨chars, hchars, hplain⟩ := Option.bind_eq_some_iff.1 ht
      dsimp only at h
      rw [(toOption_eq_some_iff _ _).1 hchars] at h
      change Document.read path chars = .ok v at h
      split at hplain
      next => cases hplain
      next hjson =>
        obtain rfl := Option.some.inj hplain
        rw [Bool.or_eq_true, not_or] at hjson
        rw [Document.read, if_neg hjson.1, if_neg hjson.2, Document.readJson_eq] at h
        exact read_of_readText _ v ((mapError_eq_ok_iff _ _ _).1 h)

theorem exists_build_of_construct (r : Route) (s : Store) (h : r.construct = .ok s) :
    ∃ v, build v = .ok s := by
  have hsettings (v : Value) (t : Settings) (ht : Settings.ofValue v = .ok t) :
      build (Settings.given v) = .ok t.store := by
    rw [← mapError_eq_ok_iff _ Settings.invalid, ← Settings.store_ofValue, ht]
    rfl
  cases r with
  | source s => exact ⟨_, h⟩
  | file files path =>
    obtain ⟨v, -, hv⟩ := (bind_eq_ok_iff _ _ _).1 ((result_load files path).symm.trans h)
    exact ⟨v, hv⟩
  | settings u =>
    obtain ⟨t, ht, rfl⟩ := (map_eq_ok_iff _ _ _).1 h
    exact ⟨_, hsettings u t ht⟩
  | settingsFile files path =>
    obtain ⟨t, ht, rfl⟩ := (map_eq_ok_iff _ _ _).1 h
    rw [Settings.result_load] at ht
    obtain ⟨v, -, hv⟩ := (bind_eq_ok_iff _ _ _).1 ht
    exact ⟨_, hsettings v t hv⟩

end Route

/-- On every way to a store, a top level with a reserved key is refused for the first one in the
order of the reserved keys, and any other is kept; the keys of JSON text are those of all its
members. No store that came to be lets a reserved key be seen. -/
theorem reserved_keys_gate :
    (∀ (r : Route) (v : Value) (entries : Entries), r.decoded = .ok v →
      v.entries? = some entries → Gated r.refusal entries r.construct ∧
        ∀ text, r.text? = some text → ∃ members, Json.members? text = some members ∧
          entries = Table.ofEntries members ∧
            ∀ k, .text k ∈ Table.keys entries ↔ .text k ∈ Table.keys members) ∧
    ∀ (r : Route) (s : Store), r.construct = .ok s → ∀ k ∈ reservedKeys, Hides s k := by
  refine ⟨fun r v entries h he => ⟨r.gated_construct v entries h he, fun text ht => ?_⟩,
    fun r s h k hk => ?_⟩
  · obtain ⟨members, hmembers, rfl⟩ :=
      Json.exists_members_of_read text v entries (r.read_of_decoded v text h ht) he
    exact ⟨members, hmembers, rfl, Table.text_mem_keys_ofEntries members⟩
  · obtain ⟨v, hv⟩ := r.exists_build_of_construct s h
    exact hides_of_notMem s k (reserved_notMem_of_build v s hv k hk)

end

theorem reserved_keys_gate_escaped_key :
    let written : Route := .source (.value (.text
      "\x7b\"constructor\": 1, \"a\": 2, \"\\u005f_proto__\": 3, \"a\": 4\x7d"))
    let entries : Entries :=
      [(.text "constructor", .int 1), (.text "a", .int 4), (.text "__proto__", .int 3)]
    let nested : Entries := [(.text "a", .mapping [(.text "prototype", .int 1)])]
    written.decoded = .ok (.mapping entries) ∧ Gated written.refusal entries written.construct ∧
      written.construct = .error (Problem.forbiddenKey "__proto__").failure ∧
      (Route.settings (.mapping nested)).construct = .ok ⟨nested⟩ ∧
      ∀ k ∈ reservedKeys, Hides ⟨nested⟩ k := by
  have hbuilt : (Route.settings
      (.mapping [(.text "a", .mapping [(.text "prototype", .int 1)])])).construct =
        .ok ⟨[(.text "a", .mapping [(.text "prototype", .int 1)])]⟩ := by rfl
  dsimp only
  exact ⟨by rfl, (reserved_keys_gate.1 _ (.mapping _) _ (by rfl) rfl).1, by rfl, hbuilt,
    reserved_keys_gate.2 _ _ hbuilt⟩

end Store

end DotPath

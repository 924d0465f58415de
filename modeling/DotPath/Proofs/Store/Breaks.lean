import DotPath.Proofs.Store.Documented

set_option autoImplicit false

/-!
Documents and settings that break the program. They do so just when the system refuses the file, the
file is no text, the reader of YAML breaks down, a key is no text and cannot be made one, or JSON is
too much.
-/

namespace DotPath

open Text

namespace Files

variable (files : Files) (path : FilePath)

/-- The system does not let the file be looked at, or it is no text in UTF-8. -/
def Unreadable : Prop :=
  (∃ message, files path = .refused message) ∨
    ∃ octets fault, files path = .file octets ∧ Utf8.decode octets = .error fault

/-- The file at a path holds a text. -/
def Holds (text : List Char) : Prop :=
  ∃ octets, files path = .file octets ∧ textOf octets = .ok text

/-- The text of the file at a path. -/
def text (missing : Problem) : Except Failure (List Char) :=
  match files path with
  | .file octets => textOf octets
  | .absent => .error missing.failure
  | .refused message => .error (.crash (.system message))

theorem crashes_text_iff (missing : Problem) :
    Crashes (files.text path missing) ↔ files.Unreadable path := by
  unfold text Unreadable
  cases files path with
  | absent => simp [Problem.failure]
  | refused message => simp
  | file octets =>
    unfold textOf
    cases hdecode : Utf8.decode octets <;> simp [hdecode]

theorem text_eq_ok_iff (missing : Problem) (cs : List Char) :
    files.text path missing = .ok cs ↔ files.Holds path cs := by
  unfold text Holds
  cases files path <;> simp

end Files

theorem Store.crashes_mapError_stopFailure {α : Type} (x : Except Json.Stop α) (intro : String)
    (text : List CodePoint) :
    Crashes (x.mapError (stopFailure intro text)) ↔
      ∃ stop, x = .error stop ∧ ∀ reason rest, stop ≠ .fault reason rest := by
  cases x with
  | ok a => simp [Except.mapError]
  | error stop => cases stop <;> simp [Except.mapError, stopFailure, malformed]

variable [Host]

namespace Store

/-- The value is JSON, as text or octets, that is too much for the reader. -/
def TooMuch (v : Value) : Prop :=
  ∃ text stop, json? v = some text ∧ Json.Oversized Host.readingDepth (0, text) stop ∧
    decode v = .error (stopFailure intro text stop)

theorem crashes_decode_iff (v : Value) : Crashes (decode v) ↔ TooMuch v := by
  constructor
  · rintro ⟨c, hc⟩
    obtain ⟨w, hw⟩ | ⟨reason, cause, hw⟩ | hmuch := decode_cases v
    · rw [hw] at hc
      cases hc
    · rw [hw] at hc
      cases hc
    · exact hmuch
  · rintro ⟨text, stop, -, hover, hdecode⟩
    rw [hdecode]
    cases hover <;> exact ⟨_, rfl⟩

theorem crashes_build_iff (v : Value) : Crashes (build v) ↔ TooMuch v := by
  rw [build_eq, crashes_bind_iff, crashes_decode_iff, or_iff_left_iff_imp]
  rintro ⟨w, -, hw⟩
  unfold ofTop at hw
  split at hw
  next entries _ =>
    obtain ⟨k, -, hout⟩ | ⟨-, hout⟩ := ofEntries_cases entries <;> rw [hout] at hw
    · exact absurd hw (not_crashes_problem _ _)
    · exact absurd hw (not_crashes_ok _)
  next => exact absurd hw (not_crashes_problem _ _)

end Store

namespace Document

/-- Why a text that is not blank cannot be read as a document. -/
inductive Unreadable (path : FilePath) (text : List Char) : Prop where
  | yaml (hpath : path.isYaml) (c : Crash) (hread : Yaml.read text = .error (.crash c))
  | keys (hpath : path.isYaml) (v : Value) (hread : Yaml.read text = .ok v) (c : Crash)
    (hkeys : v.keyFault? Host.keyDepth = some c)
  | json (hpath : path.isYaml = false) (h : Store.TooMuch (.text (String.ofList text)))

theorem crashes_readYaml_iff (path : FilePath) (text : List Char) :
    Crashes (readYaml path text) ↔ (∃ c, Yaml.read text = .error (.crash c)) ∨
      ∃ v c, Yaml.read text = .ok v ∧ v.keyFault? Host.keyDepth = some c := by
  unfold readYaml
  cases hread : Yaml.read text with
  | error stop => cases stop <;> simp
  | ok v =>
    dsimp only
    split
    next hnull =>
      have hkeys : v.keyFault? Host.keyDepth = none := by
        unfold Value.isNull at hnull
        split at hnull
        · rfl
        · cases hnull
      simp [hkeys]
    next => simp [crashes_mapError_iff, Value.textKeys_eq_error_iff]

theorem crashes_readJson_iff (path : FilePath) (text : List Char) :
    Crashes (readJson path text) ↔ Store.TooMuch (.text (String.ofList text)) := by
  have hdecode : Store.decode (.text (String.ofList text)) =
      (Json.readText (codePoints text)).mapError
        (Store.stopFailure Store.intro (codePoints text)) := by
    change Store.ofText (codePoints (String.ofList text).toList) = _
    rw [String.toList_ofList]
    rfl
  rw [← Store.crashes_decode_iff, hdecode, readJson_eq, Store.crashes_mapError_stopFailure,
    Store.crashes_mapError_stopFailure]

theorem crashes_read_iff (path : FilePath) (text : List Char) :
    Crashes (read path text) ↔ (trim text).isEmpty = false ∧ Unreadable path text := by
  unfold read
  split
  next hblank => simp [hblank]
  next hblank =>
    rw [Bool.not_eq_true] at hblank
    split
    next hpath =>
      rw [crashes_readYaml_iff]
      constructor
      · rintro (⟨c, hread⟩ | ⟨v, c, hread, hkeys⟩)
        · exact ⟨hblank, .yaml hpath c hread⟩
        · exact ⟨hblank, .keys hpath v hread c hkeys⟩
      · rintro ⟨-, ⟨-, c, hread⟩ | ⟨-, v, hread, c, hkeys⟩ | ⟨hno, -⟩⟩
        · exact .inl ⟨c, hread⟩
        · exact .inr ⟨v, c, hread, hkeys⟩
        · rw [hpath] at hno
          cases hno
    next hpath =>
      rw [crashes_readJson_iff]
      constructor
      · exact fun h => ⟨hblank, .json (by simpa using hpath) h⟩
      · rintro ⟨-, ⟨hyes, -⟩ | ⟨hyes, -⟩ | ⟨-, h⟩⟩
        · exact absurd hyes hpath
        · exact absurd hyes hpath
        · exact h

end Document

theorem Document.load_eq_text (files : Files) (path : FilePath) :
    (Document.load files path).result =
      files.text path (.contentNotFound path.text) >>= Document.read path := by
  rw [Document.result_load, Files.text]
  cases files path <;> rfl

namespace Store

variable (files : Files) (path : FilePath)

/-- The document at a path breaks the program when a store is to be built of it. -/
inductive Breaks : Prop where
  | file (h : files.Unreadable path)
  | text (cs : List Char) (hfile : files.Holds path cs) (hblank : (trim cs).isEmpty = false)
    (h : Document.Unreadable path cs)
  | value (v : Value) (hload : (Document.load files path).result = .ok v) (h : TooMuch v)

theorem crashes_load_iff : Crashes (load files path).result ↔ Breaks files path := by
  rw [result_load, crashes_bind_iff]
  nth_rewrite 1 [Document.load_eq_text]
  simp only [crashes_bind_iff, Files.crashes_text_iff, Files.text_eq_ok_iff,
    Document.crashes_read_iff, crashes_build_iff]
  constructor
  · rintro ((h | ⟨cs, hfile, hblank, h⟩) | ⟨v, hload, h⟩)
    · exact .file h
    · exact .text cs hfile hblank h
    · exact .value v hload h
  · rintro (h | ⟨cs, hfile, hblank, h⟩ | ⟨v, hload, h⟩)
    · exact .inl (.inl h)
    · exact .inl (.inr ⟨cs, hfile, hblank, h⟩)
    · exact .inr ⟨v, hload, h⟩

end Store

namespace Settings

/-- The file of settings at a path breaks the program. -/
inductive Breaks (files : Files) (path : FilePath) : Prop where
  | file (h : files.Unreadable path)
  | yaml (cs : List Char) (hfile : files.Holds path cs) (c : Crash)
    (h : Yaml.read cs = .error (.crash c))

theorem crashes_readYaml_iff (path : FilePath) (text : List Char) :
    Crashes (readYaml path text) ↔ ∃ c, Yaml.read text = .error (.crash c) := by
  unfold readYaml
  cases Yaml.read text with
  | error stop => cases stop <;> simp
  | ok v =>
    dsimp only
    split
    · simp
    · split <;> simp [Problem.failure]

theorem entries_of_readYaml (path : FilePath) (text : List Char) (v : Value)
    (h : readYaml path text = .ok v) : ∃ entries, v.entries? = some entries := by
  unfold readYaml at h
  split at h
  · cases h
  · cases h
  · split at h
    · cases h
      exact ⟨[], rfl⟩
    · split at h
      next hentries =>
        cases h
        exact Option.isSome_iff_exists.1 hentries
      next => cases h

/-- Settings that are a mapping are made or refused. -/
theorem not_crashes_ofValue (v : Value) (entries : Value.Entries) (h : v.entries? = some entries) :
    ¬ Crashes (ofValue v) := by
  rw [← crashes_map_iff _ Settings.store, store_ofValue, given_of_entries? v entries h,
    Store.build_of_decode v v entries (Store.decode_of_entries? v entries h) h]
  obtain ⟨k, -, hout⟩ | ⟨-, hout⟩ := Store.ofEntries_cases entries <;> rw [hout]
  · exact not_crashes_problem _ _
  · exact not_crashes_ok _

theorem crashes_load_iff (files : Files) (path : FilePath) :
    Crashes (load files path).result ↔ Breaks files path := by
  have hdocument : document files path =
      files.text path (.configNotFound path.text) >>= readYaml path := by
    rw [document, Files.text]
    cases files path <;> rfl
  rw [result_load, hdocument, bind_assoc, crashes_bind_iff, Files.crashes_text_iff]
  simp only [Files.text_eq_ok_iff, crashes_bind_iff, crashes_readYaml_iff]
  constructor
  · rintro (h | ⟨cs, hfile, ⟨c, h⟩ | ⟨v, hv, h⟩⟩)
    · exact .file h
    · exact .yaml cs hfile c h
    · obtain ⟨entries, hentries⟩ := entries_of_readYaml path cs v hv
      exact absurd h (not_crashes_ofValue v entries hentries)
  · rintro (h | ⟨cs, hfile, c, h⟩)
    · exact .inl h
    · exact .inr ⟨cs, hfile, .inl ⟨c, h⟩⟩

end Settings

end DotPath

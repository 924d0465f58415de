import DotPath.Proofs.Store.Gate

set_option autoImplicit false

/-!
A file of JSON beside its text. The file comes to the same store as the text, or fails as the text
does. A document that is a string makes the one difference: the text is refused, while the file
stands for the text inside the string, which is decoded once more.
-/

namespace DotPath.Store

open Text

/-- The same outcome twice, but for the words that come before what is wrong with a text. A number
with too many digits and too many open brackets stop both ways alike. -/
inductive Agree (before before' : String) : Except Failure Store → Except Failure Store → Prop where
  | built (s : Store) : Agree before before' (.ok s) (.ok s)
  | forbidden (k : String) : Agree before before' (.error (Problem.forbiddenKey k).failure)
      (.error (Problem.forbiddenKey k).failure)
  | fault (message : String) : Agree before before'
      (.error (malformed (before ++ message) (some .json)))
      (.error (malformed (before' ++ message) (some .json)))
  | shapeless (typeName : String) : Agree before before' (.error (shapeless typeName))
      (.error (shapeless typeName))
  | numeral (fault : Number.NumeralFault) : Agree before before' (.error (.crash (.numeral fault)))
      (.error (.crash (.numeral fault)))
  | tooDeep : Agree before before' (.error (.crash .tooDeep)) (.error (.crash .tooDeep))

theorem ofTop_of_entries?_none (v : Value) (h : v.entries? = none) :
    ofTop v = .error (shapeless v.typeName) := by
  rw [ofTop, h]

section Agree

variable (before before' : String)

theorem agree_ofTop (v : Value) : Agree before before' (ofTop v) (ofTop v) := by
  unfold ofTop
  split
  next entries _ =>
    obtain ⟨k, -, hout⟩ | ⟨-, hout⟩ := ofEntries_cases entries
    · rw [hout]
      exact .forbidden k
    · rw [hout]
      exact .built _
  next => exact .shapeless _

theorem agree_stopFailure (text : List CodePoint) (stop : Json.Stop) :
    Agree before before' (.error (stopFailure before text stop))
      (.error (stopFailure before' text stop)) := by
  cases stop with
  | fault reason rest => exact .fault _
  | numeral fault => exact .numeral fault
  | tooDeep => exact .tooDeep

end Agree

section

variable [Host]

/-- The text is read as a string. -/
def IsString (text : List CodePoint) (s : Scalar) : Prop :=
  Json.readText text = .ok (.scalar s) ∧ s.kind = .string

theorem decode_of_readText (text : List CodePoint) (v : Value) (h : Json.readText text = .ok v)
    (hno : ∀ s, ¬ IsString text s) : decode v = .ok v := by
  cases v with
  | scalar s =>
    cases s with
    | text t => exact absurd ⟨h, rfl⟩ (hno (.text t))
    | ragged ps => exact absurd ⟨h, rfl⟩ (hno (.ragged ps))
    | bytes octets =>
      exact absurd rfl (Json.not_bytes_of_read text _ (read_of_readText text _ h) octets)
    | _ => rfl
  | _ => rfl

theorem build_text (text : List Char) :
    build (.text (String.ofList text)) =
      (Json.readText (codePoints text)).mapError (stopFailure intro (codePoints text)) >>=
        ofTop := by
  rw [build_eq]
  change ofText (codePoints (String.ofList text).toList) >>= ofTop = _
  rw [String.toList_ofList]
  rfl

section File

variable (files : Files) (path : FilePath) (octets : List UInt8) (text : List Char)
  (hfile : files path = .file octets) (htext : Files.textOf octets = .ok text)
  (hpath : path.isYaml = false) (hblank : (trim text).isEmpty = false)

include hfile htext hpath hblank

theorem result_load_json :
    (load files path).result =
      (Json.readText (codePoints text)).mapError
        (stopFailure s!"Invalid JSON in {path.text}: " (codePoints text)) >>= build := by
  rw [result_load, Document.result_load, hfile]
  dsimp only
  rw [htext, ← Document.readJson_eq]
  change Document.read path text >>= build = _
  rw [Document.read, hblank, hpath]
  rfl

/-- A document that is no string comes to the same by its file and by its text, and is refused if it
is no object. A string is refused as a text, and its file comes to what the string comes to. -/
theorem load_agrees_with_build :
    ((∀ s, ¬ IsString (codePoints text) s) →
      Agree s!"Invalid JSON in {path.text}: " intro (load files path).result
        (build (.text (String.ofList text)))) ∧
    (∀ v, Json.readText (codePoints text) = .ok v → v.entries? = none →
      build (.text (String.ofList text)) = .error (shapeless v.typeName) ∧
        ((∀ s, ¬ IsString (codePoints text) s) →
          (load files path).result = .error (shapeless v.typeName))) ∧
    ∀ s, IsString (codePoints text) s → (load files path).result = build (.scalar s) := by
  rw [result_load_json files path octets text hfile htext hpath hblank, build_text]
  refine ⟨fun hno => ?_, fun v hv he => ?_, fun s hs => ?_⟩
  · cases hread : Json.readText (codePoints text) with
    | error stop => exact agree_stopFailure _ _ _ stop
    | ok v =>
      change Agree _ _ (build v) (ofTop v)
      rw [build_eq, decode_of_readText _ v hread hno]
      exact agree_ofTop _ _ v
  · rw [hv]
    change ofTop v = _ ∧ (_ → build v = _)
    refine ⟨ofTop_of_entries?_none v he, fun hno => ?_⟩
    rw [build_eq, decode_of_readText _ v hv hno]
    exact ofTop_of_entries?_none v he
  · rw [hs.1]
    rfl

end File

end

theorem load_agrees_with_build_list :
    let files : Files := fun _ => .file (Utf8.encode "[1]".toList)
    let path : FilePath := .ofText "d.json"
    files path = .file (Utf8.encode "[1]".toList) ∧
      Files.textOf (Utf8.encode "[1]".toList) = .ok "[1]".toList ∧ path.isYaml = false ∧
      (trim "[1]".toList).isEmpty = false ∧
      Agree s!"Invalid JSON in {path.text}: " intro (load files path).result
        (build (.text (String.ofList "[1]".toList))) := by
  have htext : Files.textOf (Utf8.encode "[1]".toList) = .ok "[1]".toList := by rfl
  have hpath : (FilePath.ofText "d.json").isYaml = false := by rfl
  have hblank : (trim "[1]".toList).isEmpty = false := by rfl
  have hread : Json.readText (codePoints "[1]".toList) = .ok (.list [.int 1]) := by rfl
  refine ⟨rfl, htext, hpath, hblank,
    (load_agrees_with_build _ _ _ _ rfl htext hpath hblank).1 fun s hs => ?_⟩
  rw [IsString, hread] at hs
  simp at hs

/-- The text of an object, written as a string into a file, is a store by the file only. -/
theorem load_disagrees_with_build_quoted_object :
    let text := "\"\x7b\\\"a\\\": 1\x7d\""
    let files : Files := fun _ => .file (Utf8.encode text.toList)
    let path : FilePath := .ofText "d.json"
    Files.textOf (Utf8.encode text.toList) = .ok text.toList ∧ path.isYaml = false ∧
      (trim text.toList).isEmpty = false ∧
      (load files path).result = .ok ⟨[(.text "a", .int 1)]⟩ ∧
      build (.text text) = .error (shapeless "str") ∧
      ¬ Agree "Invalid JSON in d.json: " intro (load files path).result (build (.text text)) := by
  have hload : (load (fun _ => .file (Utf8.encode "\"\x7b\\\"a\\\": 1\x7d\"".toList))
      (.ofText "d.json")).result = .ok ⟨[(.text "a", .int 1)]⟩ := by rfl
  have hbuild : build (.text "\"\x7b\\\"a\\\": 1\x7d\"") = .error (shapeless "str") := by rfl
  dsimp only
  refine ⟨by rfl, by rfl, by rfl, hload, hbuild, ?_⟩
  rw [hload, hbuild]
  nofun

end DotPath.Store

import DotPath.Folder
import DotPath.Proofs.FilePath
import DotPath.Proofs.Outcome

set_option autoImplicit false

/-!
Documents that are looked up by name. However it is looked up, a document is missed just when
nothing stands at its path, and the path is told.
-/

namespace DotPath

open Text

/-- The outcome of an operation that finds nothing at a path. -/
def Missing {α : Type} (path : FilePath) (x : Except Failure α) : Prop :=
  x = .error (Problem.contentNotFound path.text).failure

/-- The outcome of an operation that the system does not let look at a path. -/
def Refused {α : Type} (message : String) (x : Except Failure α) : Prop :=
  x = .error (.crash (.system message))

section

variable [Host]

namespace Document

/-- A text that cannot be read is malformed, whatever is wrong with it. -/
theorem kind_of_read (path : FilePath) (text : List Char) (p : Problem) (cause : Option Cause)
    (h : read path text = .error (.problem p cause)) : p.kind = .malformedInput := by
  unfold read at h
  split at h
  · cases h
  split at h
  · unfold readYaml at h
    split at h
    next =>
      cases h
      rfl
    next => cases h
    next v hv =>
      split at h
      · cases h
      · cases hkeys : v.textKeys <;> simp [hkeys, Except.mapError] at h
  · unfold readJson at h
    dsimp only at h
    split at h <;> cases h
    rfl

theorem missing_load_iff (files : Files) (path : FilePath) :
    Missing path (load files path).result ↔ files path = .absent := by
  rw [Missing, result_load]
  cases hfile : files path with
  | absent => simp
  | refused message => simp [Problem.failure]
  | file octets =>
    refine iff_of_false (fun hmissing => ?_) nofun
    dsimp only at hmissing
    cases htext : Files.textOf octets with
    | error f =>
      rw [htext] at hmissing
      unfold Files.textOf at htext
      split at htext <;> cases htext
      cases hmissing
    | ok text =>
      rw [htext] at hmissing
      cases kind_of_read path text _ _ hmissing

theorem refused_load (files : Files) (path : FilePath) (message : String)
    (h : files path = .refused message) : Refused message (load files path).result := by
  rw [Refused, result_load, h]

end Document

end

namespace FileTable

theorem octetCount_of_ascii (name : String) (h : ∀ c ∈ name.toList, c.toNat < 0x80) :
    octetCount name = name.toList.length := by
  have hone : ∀ c ∈ name.toList, Utf8.encodeCode c.toNat = [.ofNat c.toNat] :=
    fun c hc => if_pos (h c hc)
  rw [octetCount, Utf8.encode, List.flatMap_congr hone]
  simp

/-- A table looks at no name that is too long. -/
theorem status_of_long_name (t : FileTable) (name : String) (hdots : name ≠ "..")
    (hnul : '\x00' ∉ name.toList) (hlong : nameLimit < octetCount name) :
    status t ⟨"", [name]⟩ = tooLong ⟨"", [name]⟩ := by
  rw [status, FilePath.text_single, if_neg (by simpa using hnul)]
  split
  · rfl
  · rw [if_pos (by rfl), follow]
    · exact if_pos hlong
    · exact hdots

end FileTable

namespace Folder

variable (f : Folder) (files : Files) (name : String)

theorem result_read :
    (f.read files name).result =
      match files (f.locate name) with
      | .file octets => String.ofList <$> Files.textOf octets
      | .absent => .error (Problem.contentNotFound (f.locate name).text).failure
      | .refused message => .error (.crash (.system message)) := by
  unfold read Files.octets?
  dsimp only
  cases files (f.locate name) with
  | file octets =>
    simp only [pure_bind]
    cases Files.textOf octets <;> rfl
  | absent => rfl
  | refused message => rfl

theorem missing_read_iff :
    Missing (f.locate name) (f.read files name).result ↔ files (f.locate name) = .absent := by
  rw [Missing, result_read]
  cases hfile : files (f.locate name) with
  | absent => simp
  | refused message => simp [Problem.failure]
  | file octets =>
    refine iff_of_false (fun hmissing => ?_) nofun
    dsimp only [Files.textOf] at hmissing
    split at hmissing <;> cases hmissing

theorem refused_read (message : String) (h : files (f.locate name) = .refused message) :
    Refused message (f.read files name).result := by
  rw [Refused, result_read, h]

/-- The points in front of an extension are no part of it. -/
theorem extensionOf_dots (extension extension' : Value) (n : Nat) (e : String)
    (h : extension.plainText? = some e)
    (h' : extension'.plainText? = some (String.ofList (List.replicate n '.' ++ e.toList))) :
    extensionOf extension' = extensionOf extension := by
  have hdots : (List.replicate n '.' ++ e.toList).dropWhile (· == '.') =
      e.toList.dropWhile (· == '.') :=
    List.dropWhile_append_of_pos fun c hc => by simp [List.eq_of_mem_replicate hc]
  unfold extensionOf
  rw [h, h']
  dsimp only
  rw [String.toList_ofList, hdots]

/-- A table looks at no document whose name is too long with the extension. -/
theorem status_of_long_name (t : FileTable) (e name : String)
    (hslash : '/' ∉ (name ++ "." ++ e).toList) (hnul : '\x00' ∉ (name ++ "." ++ e).toList)
    (hlong : FileTable.nameLimit < FileTable.octetCount (name ++ "." ++ e)) :
    FileTable.status t ((⟨.ofText ".", e⟩ : Folder).locate name) =
      FileTable.tooLong ((⟨.ofText ".", e⟩ : Folder).locate name) := by
  have hne : ∀ s, FileTable.octetCount s ≤ FileTable.nameLimit → name ++ "." ++ e ≠ s := by
    rintro s hs rfl
    exact absurd hlong (Nat.not_lt.2 hs)
  have hmeaningful : FilePath.isMeaningful (name ++ "." ++ e).toList := by
    have hpoint := hne "." (by decide)
    simp only [ne_eq, ← String.toList_inj] at hpoint
    simpa [FilePath.isMeaningful] using hpoint
  have hpath : (⟨.ofText ".", e⟩ : Folder).locate name = ⟨"", [name ++ "." ++ e]⟩ := by
    rw [locate, FilePath.ofText_single _ hmeaningful hslash]
    rfl
  rw [hpath, FileTable.status_of_long_name t _ (hne ".." (by decide)) hnul hlong]

end Folder

end DotPath

import DotPath.Proofs.CommandLine.Output
import DotPath.Proofs.Folder

set_option autoImplicit false

/-!
Documents that are looked up by name and by path. A name that is no file itself stands for the path
that the folder of documents makes of it, and a run cannot tell one from the other.
-/

namespace DotPath.CommandLine

open Text

section Folder

variable (s : Settings) (base extension : Value) (e : String)
  (hbase : s.get (.text "content.base_path") (.text ".") = .ok base)
  (hextension : s.get (.text "content.file_extension") (.text "json") = .ok extension)
  (he : extension.plainText? = some e)

include hbase hextension he

/-- Settings with texts for both have a folder, whose path was read from a text. -/
theorem exists_folder (b : String) (hb : base.plainText? = some b) :
    ∃ f, folder s = .ok f ∧ f.base = .ofText b := by
  have hpath : Folder.pathOf base = .ok (.ofText b) :=
    (Folder.pathOf_eq_ok_iff base _).2 ⟨b, hb, rfl⟩
  rw [folder, hbase, hextension]
  change ∃ f, Folder.ofValues base extension = .ok f ∧ _
  rw [Folder.ofValues, hpath]
  cases hx : Folder.extensionOf extension with
  | ok x => exact ⟨⟨.ofText b, x⟩, rfl, rfl⟩
  | error c =>
    have hnone := (Folder.extensionOf_error_iff extension).1 ⟨c, hx⟩
    rw [he] at hnone
    cases hnone

theorem folder_of_dots (s' : Settings) (extension' : Value) (n : Nat)
    (hbase' : s'.get (.text "content.base_path") (.text ".") = .ok base)
    (hextension' : s'.get (.text "content.file_extension") (.text "json") = .ok extension')
    (he' : extension'.plainText? = some (String.ofList (List.replicate n '.' ++ e.toList))) :
    folder s' = folder s := by
  rw [folder, folder, hbase, hextension, hbase', hextension']
  change Folder.ofValues base extension' = Folder.ofValues base extension
  rw [Folder.ofValues, Folder.ofValues, Folder.extensionOf_dots extension extension' n e he he']

end Folder

section

variable [Host]

section Source

variable (files : Files) (s : Settings) (name : String)

theorem result_loadSource_text :
    (loadSource files s (.text name)).result =
      match files (.ofText name) with
      | .file _ => (Store.load files (.ofText name)).result
      | .refused message => .error (.crash (.system message))
      | .absent => folder s >>= fun f => (Store.load files (f.locate name)).result := by
  have hpath : (Folder.pathOf (.text name)).mapError Failure.crash = .ok (.ofText name) := rfl
  rw [result_loadSource, hpath, Value.display_text]
  change (match files (.ofText name) with | .file _ => _ | .refused _ => _ | .absent => _) = _
  cases files (.ofText name) <;> rfl

theorem refused_loadSource (message : String) (h : files (.ofText name) = .refused message) :
    Refused message (loadSource files s (.text name)).result := by
  rw [Refused, result_loadSource_text, h]

/-- A name that is no file stands for the path of its document. -/
theorem loadSource_of_absent (f : Folder) (b : String) (hf : folder s = .ok f)
    (hb : f.base = .ofText b) (h : files (.ofText name) = .absent) (octets : List UInt8)
    (hfile : files (f.locate name) = .file octets) :
    (loadSource files s (.text name)).result =
      (loadSource files s (.text (f.locate name).text)).result := by
  have hnormal : (f.locate name).Normal :=
    .join _ _ (hb ▸ FilePath.normal_ofText b) (FilePath.normal_ofText _)
  rw [result_loadSource_text, result_loadSource_text, h, hnormal.ofText_text, hfile, hf]
  rfl

end Source

/-- Runs that look for one path in the same store let the same be seen. -/
theorem seen_run_of_loadSource (files : Files) (args args' : List String) (r : Request)
    (s : Settings) (source source' path : Value) (h : Request.read args = .ok r)
    (h' : Request.read args' = .ok { r with command := some (.get source' path) })
    (hcommand : r.command = some (.get source path)) (hs : (loadSettings files r).result = .ok s)
    (hsource : (loadSource files s source).result = (loadSource files s source').result) :
    (run files args).seen = (run files args').seen := by
  let r' : Request := { r with command := some (.get source' path) }
  have hanswered : answered files r s = answered files r' s := by
    funext current
    rw [answered, answered, hcommand]
    dsimp only
    rw [hsource]
  rw [seen_run files args r h, seen_run files args' r' h', result_eq_configured,
    result_eq_configured, configured_congr files r r' rfl rfl]
  cases hsettings : configured files r with
  | error f => rfl
  | ok t =>
    obtain ⟨u, hu, ht⟩ := (bind_eq_ok_iff _ _ _).1 hsettings
    obtain ⟨level, -, ht⟩ := (bind_eq_ok_iff _ _ _).1 ht
    obtain rfl := Except.ok.inj ht
    obtain rfl := Except.ok.inj (hu.symm.trans hs)
    change seen (answer files r u).result = seen (answer files r' u).result
    rw [result_answer, result_answer, hanswered]
    rfl

/-- A document is found by its name in a folder as it is found by its path. -/
structure FoundAlike (files : Files) (s : Settings) (f : Folder) (name : String) : Prop where
  read : Missing (f.locate name) (f.read files name).result ↔ files (f.locate name) = .absent
  call : Missing (f.locate name) (f.call files name).result ↔ files (f.locate name) = .absent
  load : Missing (f.locate name) (f.load files name).result ↔ files (f.locate name) = .absent
  document : Missing (f.locate name) (Document.load files (f.locate name)).result ↔
    files (f.locate name) = .absent
  refused (message : String) (h : files (f.locate name) = .refused message) :
    Refused message (f.read files name).result ∧ Refused message (f.call files name).result ∧
      Refused message (f.load files name).result ∧
      Refused message (Document.load files (f.locate name)).result
  source (octets : List UInt8) (h : files (.ofText name) = .absent)
    (hfile : files (f.locate name) = .file octets) :
    (loadSource files s (.text name)).result =
      (loadSource files s (.text (f.locate name).text)).result
  sourceRefused (message : String) (h : files (.ofText name) = .refused message) :
    Refused message (loadSource files s (.text name)).result
  runs (octets : List UInt8) (h : files (.ofText name) = .absent)
    (hfile : files (f.locate name) = .file octets) (args args' : List String) (r : Request)
    (path : Value) (hread : Request.read args = .ok r)
    (hcommand : r.command = some (.get (.text name) path))
    (hread' : Request.read args' =
      .ok { r with command := some (.get (.text (f.locate name).text) path) })
    (hsettings : (loadSettings files r).result = .ok s) :
    (run files args).seen = (run files args').seen

/-- Where the settings have texts for the folder and the extension, or nothing, a document is missed
by its name and by its path in the same states, those in which the path leads to nothing; a path
that the system refuses to look at is no such state. A name that is no file can be given for the
path, and points in front of the extension make no difference. -/
theorem lookup_by_name_and_path (files : Files) (s : Settings) (base extension : Value)
    (b e : String) (hbase : s.get (.text "content.base_path") (.text ".") = .ok base)
    (hb : base.plainText? = some b)
    (hextension : s.get (.text "content.file_extension") (.text "json") = .ok extension)
    (he : extension.plainText? = some e) :
    ∃ f, folder s = .ok f ∧ (∀ name, FoundAlike files s f name) ∧
      ∀ (s' : Settings) (extension' : Value) (n : Nat),
        s'.get (.text "content.base_path") (.text ".") = .ok base →
        s'.get (.text "content.file_extension") (.text "json") = .ok extension' →
        extension'.plainText? = some (String.ofList (List.replicate n '.' ++ e.toList)) →
        folder s' = .ok f ∧
          ∀ source, (loadSource files s' source).result = (loadSource files s source).result := by
  obtain ⟨f, hf, hpath⟩ := exists_folder s base extension e hbase hextension he b hb
  refine ⟨f, hf, fun name => ?_, fun s' extension' n hbase' hextension' he' => ?_⟩
  · have hsource := loadSource_of_absent files s name f b hf hpath
    exact {
      read := f.missing_read_iff files name
      call := f.missing_read_iff files name
      load := Document.missing_load_iff files (f.locate name)
      document := Document.missing_load_iff files (f.locate name)
      refused := fun message h =>
        have hread := f.refused_read files name message h
        have hload := Document.refused_load files (f.locate name) message h
        ⟨hread, hread, hload, hload⟩
      source := fun octets h hfile => hsource h octets hfile
      sourceRefused := fun message h => refused_loadSource files s name message h
      runs := fun octets h hfile args args' r path hread hcommand hread' hsettings =>
        seen_run_of_loadSource files args args' r s _ _ path hread hread' hcommand hsettings
          (hsource h octets hfile) }
  · have hfolder := folder_of_dots s base extension e hbase hextension he s' extension' n hbase'
      hextension' he'
    exact ⟨hfolder.trans hf, fun source => by rw [result_loadSource, result_loadSource, hfolder]⟩

end

/-- The name has a point and a slash; the extension is not set, or is set with two points. -/
theorem lookup_by_name_and_path_dotted_name :
    let octets := Utf8.encode "\x7b\"k\": [1]\x7d".toList
    let files := FileTable.status [⟨["docs", "a.b.json"], some octets⟩]
    let content : Value := .mapping [(.text "file_extension", .text "..json")]
    let s : Settings := ⟨.mapping [], ⟨[]⟩⟩
    let s' : Settings :=
      ⟨.mapping [(.text "content", content)], ⟨[(.text "content", content)]⟩⟩
    let f : Folder := ⟨.ofText ".", "json"⟩
    files (.ofText "docs/a.b") = .absent ∧ files (f.locate "docs/a.b") = .file octets ∧
      folder s = .ok f ∧ FoundAlike files s f "docs/a.b" ∧ folder s' = .ok f ∧
      (run files ["get", "docs/a.b", "k#0"]).seen =
        (run files ["get", "docs/a.b.json", "k#0"]).seen := by
  intro octets files content s s' f
  let r (source : String) : Request := ⟨none, none, none, some (.get (.text source) (.text "k#0"))⟩
  have habsent : files (.ofText "docs/a.b") = .absent := by decide +kernel
  have hfile : files (f.locate "docs/a.b") = .file octets := by decide +kernel
  have hpath : (f.locate "docs/a.b").text = "docs/a.b.json" := by decide +kernel
  have hread : Request.read ["get", "docs/a.b", "k#0"] = .ok (r "docs/a.b") := by rfl
  have hread' : Request.read ["get", "docs/a.b.json", "k#0"] =
      .ok (r (f.locate "docs/a.b").text) := by rw [hpath]; rfl
  obtain ⟨g, hg, hfound, hdots⟩ := lookup_by_name_and_path files s (.text ".") (.text "json")
    "." "json" (by with_unfolding_all rfl) rfl (by with_unfolding_all rfl) rfl
  obtain ⟨hg', -⟩ := hdots s' (.text "..json") 2 (by with_unfolding_all rfl)
    (by with_unfolding_all rfl) rfl
  have hf : folder s = .ok f := by with_unfolding_all rfl
  obtain rfl : g = f := Except.ok.inj (hg.symm.trans hf)
  exact ⟨habsent, hfile, hf, hfound "docs/a.b", hg',
    (hfound "docs/a.b").runs octets habsent hfile _ _ _ _ hread rfl hread' rfl⟩

/-- No file of a table has so long a name, but none of the ways to it tells that it is missing. -/
theorem long_name_not_missing :
    let files := FileTable.status []
    let f : Folder := ⟨.ofText ".", "json"⟩
    let name := String.ofList (List.replicate 300 'a')
    let path := f.locate name
    folder ⟨.mapping [], ⟨[]⟩⟩ = .ok f ∧ (∀ octets, files path ≠ .file octets) ∧
      ¬ Missing path (f.read files name).result ∧ ¬ Missing path (f.call files name).result ∧
      ¬ Missing path (f.load files name).result ∧ ¬ Missing path (Document.load files path).result
    := by
  intro files f name path
  have hstatus : files path = FileTable.tooLong path := by
    have htext : (name ++ "." ++ "json").toList = List.replicate 300 'a' ++ ".json".toList := by
      simp only [String.toList_append, name, String.toList_ofList, List.append_assoc]
      rfl
    have hchars : ∀ c ∈ (name ++ "." ++ "json").toList, c ∈ 'a' :: ".json".toList := fun c hc =>
      List.mem_cons.2 ((List.mem_append.1 (htext ▸ hc)).imp_left List.eq_of_mem_replicate)
    have hascii : ('a' :: ".json".toList).all (·.toNat < 0x80) := by decide
    refine Folder.status_of_long_name [] "json" name (fun h => ?_) (fun h => ?_) ?_
    · exact absurd (hchars _ h) (by decide)
    · exact absurd (hchars _ h) (by decide)
    · rw [FileTable.octetCount_of_ascii _ fun c hc =>
        of_decide_eq_true (List.all_eq_true.1 hascii c (hchars c hc)), htext, List.length_append,
        List.length_replicate]
      decide
  have hread : ¬ Missing path (f.read files name).result := by
    rw [f.missing_read_iff, hstatus]
    exact nofun
  have hload : ¬ Missing path (Document.load files path).result := by
    rw [Document.missing_load_iff, hstatus]
    exact nofun
  exact ⟨by with_unfolding_all rfl, fun octets => by rw [hstatus]; exact nofun, hread, hread,
    hload, hload⟩

end DotPath.CommandLine

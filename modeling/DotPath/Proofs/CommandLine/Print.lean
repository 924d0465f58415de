import DotPath.Proofs.CommandLine.Run
import DotPath.Proofs.Json.Line
import DotPath.Proofs.Store.Gate

set_option autoImplicit false

/-!
What `get` prints. The value that a path leads to is printed as one line of JSON, and whoever reads
the line has the value again.
-/

namespace DotPath.CommandLine

open Text

section

variable [Host]

/-- What `get` finds: the value at a path in the document of a source. -/
def found (files : Files) (r : Request) (source path : Value) : Except Failure Value := do
  let s ← (loadSettings files r).result
  let _ ← levelFor r s
  let store ← (loadSource files s source).result
  store.resolve path

theorem result_get (files : Files) (r : Request) (source path : Value)
    (h : r.command = some (.get source path)) :
    r.result files = found files r source path >>= jsonLine := by
  have hanswer (s : Settings) : (answer files r s).result =
      (loadSource files s source).result >>= fun store => store.resolve path >>= jsonLine := by
    obtain ⟨current, hcurrent⟩ := exists_versionFor r s
    rw [result_answer, hcurrent]
    change answered files r s current = _
    rw [answered, h]
  unfold Request.result found
  simp only [bind_assoc, hanswer]

theorem jsonLine_of_plain (depth : Nat) (v : Value) (h : Json.Plain depth v)
    (hdepth : depth ≤ Host.writingDepth) (line : List Char)
    (hline : Json.write v = codePoints line) :
    jsonLine v = .ok (String.ofList (line ++ ['\n'])) := by
  rw [jsonLine, Json.refusal?_of_plain depth v h hdepth, (proper_eq_ok_iff _ line).2 hline,
    String.ofList_append]

/-- What `get` prints of a plain value is one line with a break at its end. It is read as JSON, and
gives the value again, its entries in their order; and a mapping may be built of it anew. -/
theorem get_prints_readable_line (files : Files) (args : List String) (r : Request)
    (source path v : Value) (hargs : Request.read args = .ok r)
    (hcommand : r.command = some (.get source path))
    (hfound : found files r source path = .ok v) (hplain : Json.Plain 300 v) :
    ∃ line : List Char, '\n' ∉ line ∧
      (run files args).seen = (.finished, String.ofList (line ++ ['\n']), "") ∧
      Json.readText (codePoints (line ++ ['\n'])) = .ok v ∧
      ∀ entries, v = .mapping entries → (∀ k ∈ reservedKeys, .text k ∉ Table.keys entries) →
        Store.build (.text (run files args).stdout) = .ok ⟨entries⟩ := by
  obtain ⟨line, hline, hbreak⟩ := Json.onLine_write 300 v hplain
  have hread : Json.readText (codePoints (line ++ ['\n'])) = .ok v := by
    have hwritten : codePoints (line ++ ['\n']) = Json.write v ++ [.char '\n'] := by
      rw [hline, codePoints, List.map_append]
      rfl
    rw [hwritten]
    exact Json.readText_line v (hplain.mono v 300 Host.readingDepth Host.le_readingDepth)
  have hseen : (run files args).seen = (.finished, String.ofList (line ++ ['\n']), "") := by
    rw [seen_run files args r hargs, result_get files r source path hcommand, hfound]
    change seen (jsonLine v) = _
    rw [jsonLine_of_plain 300 v hplain Host.le_writingDepth line hline]
    rfl
  have hstdout : (run files args).stdout = String.ofList (line ++ ['\n']) :=
    congrArg (fun o => o.2.1) hseen
  refine ⟨line, hbreak, hseen, hread, ?_⟩
  rintro entries rfl hkeys
  have hdecode : Store.decode (.text (run files args).stdout) = .ok (.mapping entries) := by
    change Store.ofText (codePoints (run files args).stdout.toList) = _
    rw [hstdout, String.toList_ofList, Store.ofText, hread]
    rfl
  rw [Store.build_of_decode _ _ entries hdecode rfl]
  obtain ⟨k, hk, -⟩ | ⟨-, hbuilt⟩ := Store.ofEntries_cases entries
  · exact absurd hk.mem.2 (hkeys k hk.mem.1)
  · exact hbuilt

end

set_option maxRecDepth 4000 in
theorem get_prints_readable_line_escapes :
    let entries : Value.Entries :=
      [(.text "\"", .list [.int (-7), .mapping []]), (.text "é", .text "\n")]
    let files : Files := fun path =>
      if path.names = ["d.json"] then
        .file (Utf8.encode
          "\x7b\"k\": \x7b\"\\\"\": [-7, \x7b\x7d], \"é\": \"\\n\"\x7d\x7d".toList)
      else .absent
    let args := ["--log-level", "INFO", "get", "d.json", "k"]
    let r : Request := ⟨none, none, some "INFO", some (.get (.text "d.json") (.text "k"))⟩
    Request.read args = .ok r ∧
      found files r (.text "d.json") (.text "k") = .ok (.mapping entries) ∧
      Json.Plain 300 (.mapping entries) ∧
      ∃ line : List Char, '\n' ∉ line ∧
        (run files args).seen = (.finished, String.ofList (line ++ ['\n']), "") ∧
        Json.readText (codePoints (line ++ ['\n'])) = .ok (.mapping entries) ∧
        Store.build (.text (run files args).stdout) = .ok ⟨entries⟩ := by
  intro entries files args r
  have hread : Request.read args = .ok r := by rfl
  have hsettings : (loadSettings files r).result = .ok ⟨.mapping [], ⟨[]⟩⟩ := by rfl
  have hresolve : Store.resolve ⟨[(.text "k", .mapping entries)]⟩ (.text "k") =
      .ok (.mapping entries) := by cbv
  have hfound : found files r (.text "d.json") (.text "k") = .ok (.mapping entries) := by
    rw [found, hsettings]
    exact hresolve
  have hplain : Json.Plain 300 (.mapping entries) := by
    refine .mapping 299 _ (by simp [entries]) (by simp [entries, Table.Distinct]; rfl) ?_
    simp only [entries, List.forall_mem_cons]
    refine ⟨.list 298 _ ?_, .text 299 _, by simp⟩
    simp only [List.forall_mem_cons]
    exact ⟨.int 298 (-7) (by decide),
      .mapping 297 [] (by simp) (by simp [Table.Distinct]) (by simp), by simp⟩
  obtain ⟨line, hbreak, hseen, hgiven, hbuild⟩ :=
    get_prints_readable_line files args r _ _ _ hread rfl hfound hplain
  exact ⟨hread, hfound, hplain, line, hbreak, hseen, hgiven,
    hbuild entries rfl (by simp [entries, reservedKeys, Table.keys])⟩

end DotPath.CommandLine

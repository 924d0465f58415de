import DotPath.Proofs.Json.RoundTrip
import DotPath.Proofs.Json.Stops
import DotPath.Proofs.Path.Failures
import DotPath.Proofs.Store.Gate

set_option autoImplicit false

/-!
The failures that stores and settings are documented to have. Nothing else comes of building a
store, of resolving a path or of asking for a setting, but over a number of too many digits or over
brackets inside too many others.
-/

namespace DotPath.Store

open Number Text

theorem get_of_resolve_crash (s : Settings) (key default : Value) (c : Crash)
    (h : s.store.resolve key = .error (.crash c)) : s.get key default = .error (.crash c) := by
  rw [Settings.get, h]

theorem numeral_ones (n : Nat) (h : 0 < n) : Json.Numeral (List.replicate n '1') := by
  have hone : ∀ c ∈ List.replicate n '1', c = '1' := fun c hc => List.eq_of_mem_replicate hc
  refine ⟨fun c hc => ?_, ?_, fun hzero => ?_⟩
  · rw [hone c hc]
    rfl
  · rw [Ne, List.replicate_eq_nil_iff]
    omega
  · exact absurd (hone '0' (List.mem_of_mem_head? hzero)) (by decide)

theorem resolve_of_plainText (s : Store) (path : Value) (p : String)
    (hpath : path.plainText? = some p) : s.resolve path = Path.resolve s.entries p := by
  rw [resolve, Path.resolveAny, hpath]

theorem longIndex_ones (n : Nat) (h : digitLimit < n) :
    Path.LongIndex (String.ofList ('a' :: '#' :: List.replicate n '1')) n := by
  have hlong := Path.longIndex_indexed ['a'] (List.replicate n '1') ⟨by simp, by simp [isWordChar]⟩
    (numeral_ones n (by omega)).digits (by simpa using h)
  rwa [List.length_replicate] at hlong

theorem resolve_documented (s : Store) (path : Value) (p : String)
    (hpath : path.plainText? = some p) :
    ((∃ v, s.resolve path = .ok v) ∨
      (∃ q : Problem, s.resolve path = .error q.failure ∧ q.kind ∈ Path.problems) ∨
      ∃ n, Path.LongIndex p n) ∧
    ∀ n, Path.LongIndex p n → s.resolve path = .error (.crash (.numeral (.tooLong n))) := by
  rw [s.resolve_of_plainText path p hpath]
  refine ⟨?_, Path.resolve_of_longIndex s.entries p⟩
  obtain hv | hq | ⟨n, hn, -⟩ := Path.resolve_cases s.entries p
  · exact .inl hv
  · exact .inr (.inl hq)
  · exact .inr (.inr ⟨n, hn⟩)

theorem get_documented (settings : Settings) (key default : Value) (p : String)
    (hkey : key.plainText? = some p) :
    ((∃ v, settings.store.resolve key = .ok v ∧ v.isNull = false ∧
        settings.get key default = .ok v) ∨
      ((∀ v, settings.store.resolve key = .ok v → v.isNull) ∧
        settings.get key default = .ok default) ∨
      ∃ n, Path.LongIndex p n) ∧
    ∀ n, Path.LongIndex p n →
      settings.get key default = .error (.crash (.numeral (.tooLong n))) := by
  obtain ⟨hcases, hlong⟩ := settings.store.resolve_documented key p hkey
  refine ⟨?_, fun n hn => get_of_resolve_crash settings key default _ (hlong n hn)⟩
  unfold Settings.get
  obtain ⟨v, hv⟩ | ⟨q, hq, -⟩ | hn := hcases
  · rw [hv]
    cases hnull : v.isNull with
    | false => exact .inl ⟨v, rfl, hnull, by simp [hnull]⟩
    | true => exact .inr (.inl ⟨by simpa using hnull, by simp [hnull]⟩)
  · rw [hq]
    exact .inr (.inl ⟨nofun, rfl⟩)
  · exact .inr (.inr hn)

section

variable [Host]

theorem decode_cases (source : Value) :
    (∃ v, decode source = .ok v) ∨
      (∃ reason cause, decode source = .error (malformed reason cause)) ∨
      ∃ text stop, json? source = some text ∧
        Json.Oversized Host.readingDepth (0, text) stop ∧
        decode source = .error (stopFailure intro text stop) := by
  -- A text is read, or stops the reader for one of the reasons of `Stopped`.
  have hread (text : List CodePoint) (out : Except Json.Stop Value)
      (hout : ∀ stop, out = .error stop → Json.Stopped Host.readingDepth (0, text) stop)
      (htext : json? source = some text)
      (hdecode : decode source = out.mapError (stopFailure intro text)) :
      (∃ v, decode source = .ok v) ∨
        (∃ reason cause, decode source = .error (malformed reason cause)) ∨
        ∃ text stop, json? source = some text ∧
          Json.Oversized Host.readingDepth (0, text) stop ∧
          decode source = .error (stopFailure intro text stop) := by
    rw [hdecode]
    cases hresult : out with
    | ok v => exact .inl ⟨v, rfl⟩
    | error stop =>
      obtain ⟨reason, rest, rfl⟩ | hover := hout stop hresult
      · exact .inr (.inl ⟨_, _, rfl⟩)
      · exact .inr (.inr ⟨text, stop, htext, hover, rfl⟩)
  cases source with
  | scalar s =>
    cases s with
    | text s => exact hread (codePoints s.toList) _ (Json.stopped_of_readText _) rfl rfl
    | ragged ps => exact hread ps _ (Json.stopped_of_readText ps) rfl rfl
    | bytes octets =>
      cases hoctets : decodeDocument octets with
      | error fault => exact .inr (.inl ⟨_, _, by rw [decode, ofOctets, hoctets]⟩)
      | ok text =>
        refine hread text _ (Json.stopped_of_read text) ?_ (by rw [decode, ofOctets, hoctets])
        simp [json?, hoctets, Except.toOption]
    | _ => exact .inl ⟨_, rfl⟩
  | _ => exact .inl ⟨_, rfl⟩

theorem build_cases (source : Value) :
    (∃ s, build source = .ok s) ∨
      (∃ p cause, build source = .error (.problem p cause) ∧
        p.kind ∈ [.malformedInput, .forbiddenKey]) ∨
      ∃ text stop, json? source = some text ∧
        Json.Oversized Host.readingDepth (0, text) stop ∧
        build source = .error (stopFailure intro text stop) := by
  rw [build_eq]
  obtain ⟨v, hv⟩ | ⟨reason, cause, hv⟩ | ⟨text, stop, htext, hover, hv⟩ := decode_cases source <;>
    rw [hv]
  · change (∃ s, ofTop v = .ok s) ∨ (∃ p cause, ofTop v = .error (.problem p cause) ∧ _) ∨ _
    unfold ofTop
    split
    next entries _ =>
      obtain ⟨k, -, hout⟩ | ⟨-, hout⟩ := ofEntries_cases entries
      · exact .inr (.inl ⟨.forbiddenKey k, none, hout, by simp [Problem.kind]⟩)
      · exact .inl ⟨_, hout⟩
    next => exact .inr (.inl ⟨_, none, rfl, by simp [Problem.kind]⟩)
  · exact .inr (.inl ⟨.malformedInput reason, cause, rfl, by simp [Problem.kind]⟩)
  · exact .inr (.inr ⟨text, stop, htext, hover, rfl⟩)

theorem not_built_of_oversized (source : Value) (text : List CodePoint) (stop : Json.Stop)
    (htext : json? source = some text) (h : Json.Oversized Host.readingDepth (0, text) stop)
    (s : Store) : build source ≠ .ok s := by
  intro hs
  rw [build_eq] at hs
  obtain ⟨v, hv, -⟩ := (bind_eq_ok_iff _ _ _).1 hs
  exact h.not_read v (read_of_decode source v text hv htext)

theorem build_of_readText_crash (cs : List Char) (stop : Json.Stop) (c : Crash)
    (hread : Json.readText (codePoints cs) = .error stop)
    (hc : stopFailure intro (codePoints cs) stop = .crash c) :
    build (.text (String.ofList cs)) = .error (.crash c) := by
  have hdecode : decode (.text (String.ofList cs)) = .error (.crash c) := by
    change ofText (codePoints (String.ofList cs).toList) = _
    rw [String.toList_ofList, ofText, hread, ← hc]
    rfl
  rw [build_eq, hdecode]
  rfl

theorem readText_brackets (n : Nat) (h : Host.readingDepth < n) :
    Json.readText (codePoints (List.replicate n '[')) = .error .tooDeep := by
  obtain ⟨m, rfl⟩ : ∃ m, n = m + 1 := ⟨n - 1, by omega⟩
  have hopened : Json.Opened (codePoints (List.replicate (m + 1) '[')) :=
    ⟨'[', codePoints (List.replicate m '['), by rw [List.replicate_succ, codePoints_cons], rfl⟩
  have htext := Json.readText_opened _ [] hopened
  rw [List.append_nil, Json.readValue_brackets _ _ h] at htext
  exact htext

theorem oversized_numeral (ds : List Char) (hds : Json.Numeral ds) (h : digitLimit < ds.length) :
    Json.Oversized Host.readingDepth (0, codePoints ds) (.numeral (.tooLong ds.length)) := by
  refine .numeral 0 ds.length _ .refl ?_
  have hread := Json.readNumber?_numeral [] Json.ends_nil false ds hds
  rw [if_pos h] at hread
  simpa using hread

/-- What a store is built of is kept or refused with one of two problems, a path in a store leads to
a value or fails with one of the problems of paths, and settings answer with what is there or with
the default. All this holds but for JSON that is too much, of which no store is ever built, and for
paths with an index of too many digits. -/
theorem documented_failures (source : Value) (s : Store) (settings : Settings)
    (path default : Value) (p : String) (hpath : path.plainText? = some p) :
    (((∃ built, build source = .ok built) ∨
        (∃ q cause, build source = .error (.problem q cause) ∧
          q.kind ∈ [.malformedInput, .forbiddenKey]) ∨
        ∃ text stop, json? source = some text ∧
          Json.Oversized Host.readingDepth (0, text) stop ∧
          build source = .error (stopFailure intro text stop)) ∧
      ∀ text stop, json? source = some text →
        Json.Oversized Host.readingDepth (0, text) stop → ∀ built, build source ≠ .ok built) ∧
    (((∃ v, s.resolve path = .ok v) ∨
        (∃ q : Problem, s.resolve path = .error q.failure ∧ q.kind ∈ Path.problems) ∨
        ∃ n, Path.LongIndex p n) ∧
      ∀ n, Path.LongIndex p n → s.resolve path = .error (.crash (.numeral (.tooLong n)))) ∧
    ((∃ v, settings.store.resolve path = .ok v ∧ v.isNull = false ∧
          settings.get path default = .ok v) ∨
        ((∀ v, settings.store.resolve path = .ok v → v.isNull) ∧
          settings.get path default = .ok default) ∨
        ∃ n, Path.LongIndex p n) ∧
      ∀ n, Path.LongIndex p n →
        settings.get path default = .error (.crash (.numeral (.tooLong n))) :=
  ⟨⟨build_cases source, not_built_of_oversized source⟩, s.resolve_documented path p hpath,
    get_documented settings path default p hpath⟩

end

theorem documented_failures_long_number :
    let number := String.ofList (List.replicate 4301 '1')
    let path := String.ofList ('a' :: '#' :: List.replicate 4301 '1')
    let settings : Settings := ⟨.mapping [], ⟨[]⟩⟩
    (Value.text path).plainText? = some path ∧ (∀ s, build (.text number) ≠ .ok s) ∧
      resolve ⟨[]⟩ (.text path) = .error (.crash (.numeral (.tooLong 4301))) ∧
      settings.get (.text path) (.int 7) = .error (.crash (.numeral (.tooLong 4301))) := by
  intro number path settings
  have hlong : digitLimit < (List.replicate 4301 '1').length := by
    rw [List.length_replicate]
    decide
  have hover := oversized_numeral _ (numeral_ones 4301 (by decide)) hlong
  have hindex := longIndex_ones 4301 (by decide)
  have htext : json? (.text number) = some (codePoints (List.replicate 4301 '1')) := by
    rw [Value.text, json?, String.toList_ofList]
  obtain ⟨⟨-, hbuild⟩, ⟨-, hresolve⟩, -, hget⟩ :=
    documented_failures (.text number) ⟨[]⟩ settings (.text path) (.int 7) path rfl
  exact ⟨rfl, hbuild _ _ htext hover, hresolve 4301 hindex, hget 4301 hindex⟩

/-- Failures that are not documented: a whole number of too many digits in a text and in a path, and
brackets inside too many others. -/
theorem undocumented_failures_long_numbers :
    let number := String.ofList (List.replicate 4301 '1')
    let brackets := String.ofList (List.replicate 5000 '[')
    let path := String.ofList ('a' :: '#' :: List.replicate 4301 '1')
    build (.text number) = .error (.crash (.numeral (.tooLong 4301))) ∧
      build (.text brackets) = .error (.crash .tooDeep) ∧
      resolve ⟨[]⟩ (.text path) = .error (.crash (.numeral (.tooLong 4301))) ∧
      Settings.get ⟨.mapping [], ⟨[]⟩⟩ (.text path) .null =
        .error (.crash (.numeral (.tooLong 4301))) := by
  have hnumber := Json.readText_tooLong _ (numeral_ones 4301 (by decide))
    (by rw [List.length_replicate]; decide)
  rw [List.length_replicate] at hnumber
  have hindex := longIndex_ones 4301 (by decide)
  have hpath := Path.resolve_of_longIndex [] _ 4301 hindex
  exact ⟨build_of_readText_crash _ _ _ hnumber rfl,
    build_of_readText_crash _ _ _ (readText_brackets 5000 (by decide)) rfl, hpath,
    get_of_resolve_crash _ _ _ _ hpath⟩

end DotPath.Store

import DotPath.Proofs.Store.Gate
import DotPath.Proofs.Text.Encoding

set_option autoImplicit false

/-!
Stores built of octets. A text that an object begins is the same source of a store in every
encoding, with or without a byte order mark, as it is in characters.
-/

namespace DotPath

open Text

namespace Json

/-- A text that an object begins: between blanks a brace, and then the brace that closes the object
or the quote of its first key. Every text of JSON with an object at its top is such a text. -/
inductive OpensObject : List Char → Prop where
  | intro (before after rest : List Char) (c : Char) (hbefore : ∀ b ∈ before, isJsonBlank b)
      (hafter : ∀ b ∈ after, isJsonBlank b) (hc : c = '"' ∨ c = '\x7d') :
      OpensObject (before ++ '\x7b' :: (after ++ c :: rest))

theorem isPlain_blank (b : Char) (h : isJsonBlank b) : Encoding.IsPlain b := by
  simp only [isJsonBlank, Bool.or_eq_true, beq_iff_eq] at h
  obtain ((rfl | rfl) | rfl) | rfl := h <;> decide

/-- The first two characters tell the encoding, a blank as well as a brace. -/
theorem OpensObject.plain (cs : List Char) (h : OpensObject cs) :
    ∃ a b rest, cs = a :: b :: rest ∧ Encoding.IsPlain a ∧ Encoding.IsPlain b := by
  obtain ⟨before, after, rest, c, hbefore, hafter, hc⟩ := h
  have hopen : Encoding.IsPlain '\x7b' := by decide
  have hplain : Encoding.IsPlain c := by
    obtain rfl | rfl := hc <;> decide
  match before, hbefore with
  | [], _ =>
    match after, hafter with
    | [], _ => exact ⟨_, _, _, rfl, hopen, hplain⟩
    | b :: after, h => exact ⟨_, _, _, rfl, hopen, isPlain_blank b (h b (by simp))⟩
  | [a], h => exact ⟨_, _, _, rfl, isPlain_blank a (h a (by simp)), hopen⟩
  | a :: b :: before, h =>
    exact ⟨_, _, _, rfl, isPlain_blank a (h a (by simp)), isPlain_blank b (h b (by simp))⟩

/-- What is left of a text after blanks is the text after blanks. -/
theorem exists_blanks (cs : List Char) (c : Char) (ps : List CodePoint)
    (h : skipBlank (codePoints cs) = .char c :: ps) :
    ∃ blanks rest, cs = blanks ++ c :: rest ∧ (∀ b ∈ blanks, isJsonBlank b) ∧
      ps = codePoints rest := by
  have hskip : skipBlank (codePoints cs) = codePoints (cs.dropWhile isJsonBlank) :=
    List.dropWhile_map ..
  rw [hskip, codePoints, List.map_eq_cons_iff] at h
  obtain ⟨d, rest, hdrop, hd, hps⟩ := h
  obtain rfl := CodePoint.char.inj hd
  refine ⟨cs.takeWhile isJsonBlank, rest, ?_, fun b hb => List.mem_takeWhile_imp hb, hps.symm⟩
  rw [← hdrop, List.takeWhile_append_dropWhile]

/-- After a brace an object is read only from its closing brace or a quote. -/
theorem exists_quote_of_readObject (element : Reader Value) (ps : List CodePoint)
    (r : Value × List CodePoint) (h : readObject element ps = .ok r) :
    ∃ c rest, skipBlank ps = .char c :: rest ∧ (c = '"' ∨ c = '\x7d') := by
  unfold readObject at h
  split at h
  next rest hclosed => exact ⟨_, rest, hclosed, .inr rfl⟩
  next =>
    obtain ⟨ms, hms, -⟩ := (bind_eq_ok_iff _ _ _).1 h
    unfold readMembers at hms
    split at hms
    next => cases hms
    next rest hlength hquote => exact ⟨_, rest, hquote, .inl rfl⟩
    next => cases hms

variable [Host]

/-- Only such a text is read as an object. -/
theorem opensObject_of_read (cs : List Char) (v : Value) (entries : Value.Entries)
    (h : read (codePoints cs) = .ok v) (he : v.entries? = some entries) : OpensObject cs := by
  obtain ⟨rest, hread⟩ := exists_readValue_of_read _ v h
  obtain ⟨depth, body, -, hbody, hobject⟩ | ⟨_, body, -, -, harray⟩ | ⟨s, rfl, -⟩ :=
    readValue_cases _ _ rest v hread
  · obtain ⟨before, inner, rfl, hbefore, rfl⟩ := exists_blanks cs _ body hbody
    obtain ⟨c, after, hc, hkey⟩ := exists_quote_of_readObject _ _ _ hobject
    obtain ⟨gap, last, rfl, hgap, -⟩ := exists_blanks inner c after hc
    exact .intro before gap last c hbefore hgap hkey
  · obtain ⟨items, rfl⟩ := exists_items_of_readArray _ body rest v harray
    cases he
  · cases he

theorem readText_of_opensObject (cs : List Char) (h : OpensObject cs) :
    readText (codePoints cs) = read (codePoints cs) := by
  obtain ⟨a, b, rest, rfl, ha, -⟩ := h.plain
  refine if_neg fun hmark => ?_
  obtain rfl : a = Encoding.mark := by simpa [codePoints] using hmark
  exact absurd ha.2 (by decide)

end Json

namespace Store

section

variable [Host]

theorem decode_text (cs : List Char) :
    decode (.text (String.ofList cs)) = ofText (codePoints cs) := by
  change ofText (codePoints (String.ofList cs).toList) = _
  rw [String.toList_ofList]

theorem decode_of_read (cs : List Char) (v : Value) (h : Json.OpensObject cs)
    (hread : Json.read (codePoints cs) = .ok v) : decode (.text (String.ofList cs)) = .ok v := by
  rw [decode_text, ofText, Json.readText_of_opensObject cs h, hread]
  rfl

/-- A text that an object begins is decoded alike as it is and in octets. -/
theorem decode_encoded (cs : List Char) (h : Json.OpensObject cs) (e : Encoding) :
    decode (.scalar (.bytes (e.encode cs))) = decode (.text (String.ofList cs)) := by
  have hdecoded : decodeDocument (e.encode cs) = .ok (codePoints cs) := by
    obtain ⟨a, b, rest, rfl, ha, hb⟩ := h.plain
    exact decodeDocument_encode e a b rest ha hb
  rw [decode_text, ofText, Json.readText_of_opensObject cs h]
  change ofOctets (e.encode cs) = _
  rw [ofOctets, hdecoded]

/-- Every text that is read as an object begins like one, and a text that does so is the same source
of a store in characters and in octets of any encoding. The store has the object's entries in their
order, or the object is refused for the first reserved key. -/
theorem build_encoded (cs : List Char) :
    (∀ v entries, Json.read (codePoints cs) = .ok v → v.entries? = some entries →
      Json.OpensObject cs ∧
        (build (.text (String.ofList cs)) = .ok ⟨entries⟩ ∨
          ∃ k, FirstReserved entries k ∧
            build (.text (String.ofList cs)) = .error (Problem.forbiddenKey k).failure)) ∧
    (Json.OpensObject cs → ∀ e : Encoding,
      build (Source.value (.scalar (.bytes (e.encode cs)))).content =
          build (.text (String.ofList cs)) ∧
        build (Source.buffer (e.encode cs)).content = build (.text (String.ofList cs))) := by
  refine ⟨fun v entries h he => ?_, fun h e => ?_⟩
  · have hopens := Json.opensObject_of_read cs v entries h he
    refine ⟨hopens, ?_⟩
    rw [build_of_decode _ v entries (decode_of_read cs v hopens h) he]
    obtain ⟨k, hk, hout⟩ | ⟨-, hout⟩ := ofEntries_cases entries
    · exact .inr ⟨k, hk, hout⟩
    · exact .inl hout
  · have hbuild : build (.scalar (.bytes (e.encode cs))) = build (.text (String.ofList cs)) := by
      rw [build_eq, build_eq, decode_encoded cs h e]
    exact ⟨hbuild, hbuild⟩

end

/-- A key beyond the basic plane, in octets a surrogate pair. -/
theorem build_encoded_pair :
    let text := ['\x7b', '"', Char.ofNat 0x1f600, '"', ':', '1', '\x7d']
    let octets : List UInt8 :=
      [0xff, 0xfe, 0x7b, 0, 0x22, 0, 0x3d, 0xd8, 0, 0xde, 0x22, 0, 0x3a, 0, 0x31, 0, 0x7d, 0]
    let entries : Value.Entries := [(.text (String.ofList [Char.ofNat 0x1f600]), .int 1)]
    (Encoding.utf16 .little true).encode text = octets ∧
      Json.read (codePoints text) = .ok (.mapping entries) ∧
      build (Source.buffer octets).content = build (.text (String.ofList text)) ∧
      build (.text (String.ofList text)) = .ok ⟨entries⟩ := by
  intro text octets entries
  have hread : Json.read (codePoints text) = .ok (.mapping entries) := by rfl
  have hoctets : (Encoding.utf16 .little true).encode text = octets := by rfl
  have hopens := ((build_encoded text).1 (.mapping entries) entries hread rfl).1
  have hsame := (build_encoded text).2 hopens (.utf16 .little true)
  rw [hoctets] at hsame
  refine ⟨hoctets, hread, hsame.2, ?_⟩
  rw [build_of_decode _ _ entries (decode_of_read text _ hopens hread) rfl]
  rfl

end Store

end DotPath

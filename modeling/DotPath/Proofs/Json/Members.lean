import DotPath.Json.Reader
import DotPath.Proofs.Outcome
import DotPath.Proofs.Table

set_option autoImplicit false

/-!
What a JSON text holds at its top. Only a text that begins with a brace is read as a mapping, and
the mapping has the keys of the text's members, those that come again and those written with escapes
included. What is read without brackets and braces is a scalar of one of the kinds of JSON.
-/

namespace DotPath.Json

open Text

theorem kind_ofPoints (ps : List CodePoint) : (Scalar.ofPoints ps).kind = .string := by
  unfold Scalar.ofPoints
  split <;> rfl

theorem kind_of_readString (start ps rest : List CodePoint) (s : Scalar)
    (h : readString start ps = .ok (s, rest)) : s.kind = .string := by
  obtain ⟨r, -, hr⟩ := (map_eq_ok_iff _ _ _).1 h
  obtain ⟨rfl, -⟩ := Prod.mk.inj hr
  exact kind_ofPoints _

theorem exists_scalar_of_readWord? (ps rest : List CodePoint) (v : Value)
    (h : readWord? ps = some (v, rest)) : ∃ s : Scalar, v = .scalar s ∧ s.kind ≠ .other := by
  obtain ⟨w, hw, hv⟩ := List.exists_of_findSome?_eq_some h
  have hwords : ∀ w ∈ words, w.2.kind ≠ .other := by decide
  split at hv
  · obtain ⟨rfl, -⟩ := Prod.mk.inj (Option.some.inj hv)
    exact ⟨w.2, rfl, hwords w hw⟩
  · simp at hv

theorem exists_scalar_of_readNumber? (ps rest : List CodePoint) (v : Value)
    (h : readNumber? ps = some (.ok (v, rest))) :
    ∃ s : Scalar, v = .scalar s ∧ s.kind ≠ .other := by
  simp only [readNumber?] at h
  split at h
  · simp at h
  · split at h
    · split at h
      · simp at h
      · cases h
        exact ⟨_, rfl, by simp [Scalar.kind]⟩
    · cases h
      exact ⟨_, rfl, by simp [Scalar.kind]⟩
    · cases h
      exact ⟨_, rfl, by simp [Scalar.kind]⟩

/-- The members of an object after its opening brace, in the order of the text. A key may come
again. -/
def readAllMembers (element : Reader Value) : Reader (List (Scalar × Value)) := fun ps =>
  match skipBlank ps with
  | .char '\x7d' :: rest => .ok ([], rest)
  | rest => readMembers element (rest.length + 1) rest

/-- An object is the table of its members. -/
theorem readObject_eq (element : Reader Value) (ps : List CodePoint) :
    readObject element ps =
      (fun r => (.mapping (Table.ofEntries r.1), r.2)) <$> readAllMembers element ps := by
  by_cases hclosed : ∃ rest, skipBlank ps = .char '\x7d' :: rest
  · obtain ⟨rest, h⟩ := hclosed
    simp only [readObject, readAllMembers, h]
    rfl
  · -- Both readers go past the brace that does not come at once, one function at a time.
    have hmembers : readAllMembers element ps =
        readMembers element ((skipBlank ps).length + 1) (skipBlank ps) := by
      unfold readAllMembers
      split
      next rest h => exact absurd ⟨rest, h⟩ hclosed
      next => rfl
    rw [hmembers]
    unfold readObject
    split
    next rest h => exact absurd ⟨rest, h⟩ hclosed
    next => rfl

theorem exists_items_of_readArray (element : Reader Value) (ps rest : List CodePoint) (v : Value)
    (h : readArray element ps = .ok (v, rest)) : ∃ items, v = .list items := by
  unfold readArray at h
  split at h
  · cases h
    exact ⟨[], rfl⟩
  · obtain ⟨r, -, hr⟩ := (bind_eq_ok_iff _ _ _).1 h
    cases hr
    exact ⟨r.1, rfl⟩

/-- What is read is an object after a brace, an array after a bracket, or a scalar. -/
theorem readValue_cases (n : Nat) (ps rest : List CodePoint) (v : Value)
    (h : readValue n ps = .ok (v, rest)) :
    (∃ depth body, n = depth + 1 ∧ ps = .char '\x7b' :: body ∧
      readObject (readValue depth) body = .ok (v, rest)) ∨
    (∃ depth body, n = depth + 1 ∧ ps = .char '[' :: body ∧
      readArray (readValue depth) body = .ok (v, rest)) ∨
    ∃ s : Scalar, v = .scalar s ∧ s.kind ≠ .other := by
  unfold readValue at h
  split at h
  · obtain ⟨r, hr, hv⟩ := (bind_eq_ok_iff _ _ _).1 h
    cases hv
    exact .inr (.inr ⟨r.1, rfl, by simp [kind_of_readString _ _ r.2 r.1 hr]⟩)
  · cases h
  · cases h
  next depth body => exact .inr (.inl ⟨depth, body, rfl, rfl, h⟩)
  next depth body => exact .inl ⟨depth, body, rfl, rfl, h⟩
  · refine .inr (.inr ?_)
    split at h
    next r hw =>
      cases h
      exact exists_scalar_of_readWord? _ rest v hw
    next =>
      cases hn : readNumber? ps with
      | none => simp [hn] at h
      | some r =>
        rw [hn, Option.getD_some] at h
        exact exists_scalar_of_readNumber? ps rest v (by rw [hn, h])

/-- What has entries is read as an object. -/
theorem exists_members_of_readValue (n : Nat) (ps rest : List CodePoint) (v : Value)
    (entries : Value.Entries) (h : readValue n ps = .ok (v, rest))
    (he : v.entries? = some entries) :
    v = .mapping entries ∧ ∃ body ms, ps = .char '\x7b' :: body ∧
      readAllMembers (readValue (n - 1)) body = .ok (ms, rest) ∧
        entries = Table.ofEntries ms := by
  obtain ⟨depth, body, rfl, rfl, hobject⟩ | ⟨_, body, _, _, harray⟩ | ⟨s, rfl, _⟩ :=
    readValue_cases n ps rest v h
  · rw [readObject_eq] at hobject
    obtain ⟨⟨ms, after⟩, hms, hv⟩ := (map_eq_ok_iff _ _ _).1 hobject
    obtain ⟨rfl, rfl⟩ := Prod.mk.inj hv
    obtain rfl := Option.some.inj he
    exact ⟨rfl, body, ms, rfl, hms, rfl⟩
  · obtain ⟨items, rfl⟩ := exists_items_of_readArray _ body rest v harray
    cases he
  · cases he

variable [Host]

/-- The members at the top of a text, if it is an object. -/
def members? (text : List CodePoint) : Option (List (Scalar × Value)) :=
  match skipBlank text with
  | .char '\x7b' :: rest =>
    (readAllMembers (readValue (Host.readingDepth - 1)) rest).toOption.map (·.1)
  | _ => none

theorem exists_readValue_of_read (text : List CodePoint) (v : Value) (h : read text = .ok v) :
    ∃ rest, readValue Host.readingDepth (skipBlank text) = .ok (v, rest) := by
  obtain ⟨⟨w, rest⟩, hread, hend⟩ := (bind_eq_ok_iff _ _ _).1 h
  refine ⟨rest, ?_⟩
  dsimp only at hend
  split at hend
  · cases hend
    exact hread
  · cases hend

theorem eq_mapping_of_read (text : List CodePoint) (v : Value) (entries : Value.Entries)
    (h : read text = .ok v) (he : v.entries? = some entries) : v = .mapping entries := by
  obtain ⟨rest, hread⟩ := exists_readValue_of_read text v h
  exact (exists_members_of_readValue _ _ rest v entries hread he).1

/-- The mapping that a text is read as is the table of the text's members. -/
theorem exists_members_of_read (text : List CodePoint) (v : Value) (entries : Value.Entries)
    (h : read text = .ok v) (he : v.entries? = some entries) :
    ∃ ms, members? text = some ms ∧ entries = Table.ofEntries ms := by
  obtain ⟨rest, hread⟩ := exists_readValue_of_read text v h
  obtain ⟨-, body, ms, hbody, hms, hentries⟩ :=
    exists_members_of_readValue _ _ rest v entries hread he
  refine ⟨ms, ?_, hentries⟩
  rw [members?, hbody]
  simp [hms, Except.toOption]

theorem not_bytes_of_read (text : List CodePoint) (v : Value) (h : read text = .ok v)
    (octets : List UInt8) : v ≠ .scalar (.bytes octets) := by
  rintro rfl
  obtain ⟨rest, hread⟩ := exists_readValue_of_read text _ h
  obtain ⟨_, body, _, _, hobject⟩ | ⟨_, body, _, _, harray⟩ | ⟨s, hs, hkind⟩ :=
    readValue_cases _ _ rest _ hread
  · rw [readObject_eq] at hobject
    obtain ⟨r, -, hr⟩ := (map_eq_ok_iff _ _ _).1 hobject
    cases hr
  · obtain ⟨items, hitems⟩ := exists_items_of_readArray _ body rest _ harray
    cases hitems
  · cases hs
    exact hkind rfl

end DotPath.Json

import DotPath.Path
import DotPath.Proofs.Outcome
import DotPath.Proofs.Segment.Parse
import DotPath.Proofs.Text.Split

set_option autoImplicit false

/-!
Paths and their segments. Reading a path is reading its raw segments one by one, so it agrees with
cutting a path short at a dot and with joining two paths by one.
-/

namespace DotPath.Path

open Text

theorem raws_ne_nil (path : String) : raws path ≠ [] := by
  simpa [raws] using split_ne_nil '.' path.toList

theorem raws_append (p q : String) : raws (p ++ "." ++ q) = raws p ++ raws q := by
  simp [raws, split_append]

theorem intercalate_raws (path : String) : ".".intercalate (raws path) = path := by
  apply String.toList_inj.1
  rw [String.toList_intercalate, raws, List.map_map, split_eq_splitOn]
  have hid : String.toList ∘ String.ofList = id := funext fun cs => String.toList_ofList
  rw [hid, List.map_id]
  exact List.intercalate_splitOn '.'

theorem raws_intercalate (rs : List String) (hne : rs ≠ []) (h : ∀ r ∈ rs, '.' ∉ r.toList) :
    raws (".".intercalate rs) = rs := by
  rw [raws, split_eq_splitOn]
  change (((String.singleton '.').intercalate rs).toList.splitOn '.').map String.ofList = rs
  rw [splitOn_intercalate '.' rs hne h, map_ofList_toList]

theorem dot_notMem_of_mem_raws (path r : String) (h : r ∈ raws path) : '.' ∉ r.toList := by
  obtain ⟨p, hp, rfl⟩ := List.mem_map.1 h
  simpa using fun hdot => (mem_of_mem_split '.' _ p hp '.' hdot).2 rfl

/-- Reading a path is reading its raw segments one by one. -/
theorem parse_ok_iff (path : String) (segments : List Segment) :
    parse path = .ok segments ↔
      List.Forall₂ (fun r s => Segment.parse r = .ok s) (raws path) segments := by
  rw [← mapM_ok_iff, parse]
  split
  next h =>
    rw [String.isEmpty_iff.1 h]
    have he : Segment.parse "" = .error (Problem.invalidSegment "").failure :=
      Segment.parse_of_none "" (Segment.lastWord?_of_forall_not [] (by simp))
    have hr : raws "" = [""] := rfl
    rw [hr, List.mapM_cons, he]
    simp [bind, Except.bind]
  next => rfl

theorem parse_intercalate (rs : List String) (segments : List Segment) (hne : rs ≠ [])
    (hdot : ∀ r ∈ rs, '.' ∉ r.toList)
    (h : List.Forall₂ (fun r s => Segment.parse r = .ok s) rs segments) :
    parse (".".intercalate rs) = .ok segments := by
  rwa [parse_ok_iff, raws_intercalate rs hne hdot]

theorem length_raws (path : String) (segments : List Segment) (h : parse path = .ok segments) :
    (raws path).length = segments.length := ((parse_ok_iff path segments).1 h).length_eq

theorem parse_ne_nil (path : String) (segments : List Segment) (h : parse path = .ok segments) :
    segments ≠ [] := by
  rintro rfl
  exact raws_ne_nil path (List.length_eq_zero_iff.1 (length_raws path [] h))

theorem parse_append (p q : String) (ss ts : List Segment) (hp : parse p = .ok ss)
    (hq : parse q = .ok ts) : parse (p ++ "." ++ q) = .ok (ss ++ ts) := by
  rw [parse_ok_iff, raws_append]
  exact List.rel_append ((parse_ok_iff p ss).1 hp) ((parse_ok_iff q ts).1 hq)

/-- The path cut short after its first `j` raw segments. -/
def upTo (path : String) (j : Nat) : String := ".".intercalate ((raws path).take j)

theorem upTo_length (path : String) (j : Nat) (h : (raws path).length ≤ j) :
    upTo path j = path := by
  rw [upTo, List.take_of_length_le h, intercalate_raws]

theorem parse_upTo (path : String) (segments : List Segment) (j : Nat) (hj : 0 < j)
    (h : parse path = .ok segments) : parse (upTo path j) = .ok (segments.take j) := by
  refine parse_intercalate _ _ ?_ ?_ (List.forall₂_take j ((parse_ok_iff path segments).1 h))
  · rw [Ne, List.take_eq_nil_iff]
    exact fun hn => hn.elim (Nat.ne_of_gt hj) (raws_ne_nil path)
  · exact fun r hr => dot_notMem_of_mem_raws path r (List.mem_of_mem_take hr)

theorem parse_render (segments : List Segment) (hne : segments ≠ [])
    (h : ∀ s ∈ segments, s.Proper) : parse (render segments) = .ok segments := by
  refine parse_intercalate _ _ (by simpa using hne) ?_ ?_
  · simpa using fun s hs => Segment.dot_notMem_render s (h s hs)
  · rw [List.forall₂_map_left_iff, List.forall₂_same]
    exact fun s hs => Segment.parse_render s (h s hs)

/-- Names with dots between them are a path. -/
theorem parse_names (names : List String) (hne : names ≠ [])
    (h : ∀ k ∈ names, Segment.IsWord k.toList) :
    parse (".".intercalate names) = .ok (names.map fun k => ⟨k, none⟩) := by
  have hrender : render (names.map fun k => ⟨k, none⟩) = ".".intercalate names := by
    simp [render, Function.comp_def, Segment.render]
  rw [← hrender]
  refine parse_render _ (by simpa using hne) ?_
  rw [List.forall_mem_map]
  exact fun k hk => ⟨h k hk, by simp⟩

theorem parse_word (k : String) (h : Segment.IsWord k.toList) : parse k = .ok [⟨k, none⟩] :=
  parse_names [k] (by simp) (by simpa using h)

theorem proper_of_parse (path : String) (segments : List Segment) (h : parse path = .ok segments) :
    ∀ s ∈ segments, s.Proper := by
  have hs := (parse_ok_iff path segments).1 h
  clear h
  generalize raws path = rs at hs
  induction hs with
  | nil => simp
  | cons hr _ ih => exact List.forall_mem_cons.2 ⟨Segment.proper_of_parse _ _ hr, ih⟩

end DotPath.Path

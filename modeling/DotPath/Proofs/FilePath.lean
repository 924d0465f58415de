import DotPath.FilePath
import DotPath.Proofs.Text.Split

set_option autoImplicit false

/-!
Paths and their texts. A path that was read from a text, or made of two such paths, is read again
from the text that it is written as.
-/

namespace DotPath.FilePath

open Text

/-- The names say something and have no slash, and the root is one that a text can begin with. -/
structure Normal (p : FilePath) : Prop where
  root : p.root ∈ ["", "/", "//"]
  names : ∀ n ∈ p.names, isMeaningful n.toList ∧ '/' ∉ n.toList

theorem rootOf_mem (cs : List Char) : rootOf cs ∈ ["", "/", "//"] := by
  unfold rootOf
  split <;> simp

theorem normal_ofText (s : String) : (ofText s).Normal where
  root := rootOf_mem s.toList
  names := by
    refine List.forall_mem_map.2 fun n hn => ?_
    obtain ⟨hsplit, hmeaningful⟩ := List.mem_filter.1 hn
    rw [String.toList_ofList]
    exact ⟨hmeaningful, fun hslash => (mem_of_mem_split '/' _ n hsplit '/' hslash).2 rfl⟩

theorem Normal.join (p q : FilePath) (hp : p.Normal) (hq : q.Normal) : (p.join q).Normal := by
  unfold FilePath.join
  split
  · exact ⟨hp.root, List.forall_mem_append.2 ⟨hp.names, hq.names⟩⟩
  · exact hq

section Written

variable (names : List String) (h : ∀ n ∈ names, isMeaningful n.toList ∧ '/' ∉ n.toList)

include h

/-- The names are what is cut out of their text between the slashes. -/
theorem names_of_intercalate :
    (split '/' ("/".intercalate names).toList).filter isMeaningful = names.map String.toList := by
  cases hnames : names with
  | nil => rfl
  | cons n ns =>
    rw [← hnames, split_eq_splitOn]
    change (((String.singleton '/').intercalate names).toList.splitOn '/').filter isMeaningful = _
    rw [splitOn_intercalate '/' names (by simp [hnames]) fun n hn => (h n hn).2]
    exact List.filter_eq_self.2 (List.forall_mem_map.2 fun n hn => (h n hn).1)

theorem head?_intercalate_ne : ("/".intercalate names).toList.head? ≠ some '/' := by
  rw [String.toList_intercalate]
  cases names with
  | nil => nofun
  | cons n ns =>
    obtain ⟨hmeaningful, hslash⟩ := h n List.mem_cons_self
    cases hn : n.toList with
    | nil => simp [hn, isMeaningful] at hmeaningful
    | cons c cs =>
      have hc : c ≠ '/' := by
        rintro rfl
        simp [hn] at hslash
      cases ns <;> simp [hn, hc, List.intercalate]

end Written

/-- A slash at the beginning gives no name. -/
theorem filter_split_slash (cs : List Char) :
    (split '/' ('/' :: cs)).filter isMeaningful = (split '/' cs).filter isMeaningful := by
  simp [split, isMeaningful]

theorem rootOf_append (root : String) (hroot : root ∈ ["", "/", "//"]) (cs : List Char)
    (h : cs.head? ≠ some '/') : rootOf (root.toList ++ cs) = root := by
  simp only [List.mem_cons, List.not_mem_nil, or_false] at hroot
  cases cs with
  | nil => rcases hroot with rfl | rfl | rfl <;> rfl
  | cons c cs =>
    have hc : c ≠ '/' := by simpa using h
    rcases hroot with rfl | rfl | rfl <;> simp [rootOf, hc]

/-- The path of the text of a path is that path. -/
theorem Normal.ofText_text (p : FilePath) (h : p.Normal) : ofText p.text = p := by
  obtain ⟨root, names⟩ := p
  obtain ⟨hroot, hnames⟩ := h
  unfold text
  split
  next hempty =>
    simp only [Bool.and_eq_true, String.isEmpty_iff, List.isEmpty_iff] at hempty
    obtain ⟨rfl, rfl⟩ := hempty
    rfl
  next =>
    have hcut : (split '/' (root ++ "/".intercalate names).toList).filter isMeaningful =
        names.map String.toList := by
      rw [← names_of_intercalate names hnames, String.toList_append]
      simp only [List.mem_cons, List.not_mem_nil, or_false] at hroot
      rcases hroot with rfl | rfl | rfl
      · rfl
      · exact filter_split_slash _
      · exact (filter_split_slash _).trans (filter_split_slash _)
    rw [ofText, hcut, String.toList_append,
      rootOf_append root hroot _ (head?_intercalate_ne names hnames), map_ofList_toList]

theorem text_single (name : String) : text ⟨"", [name]⟩ = name := by
  simp [text]

/-- A name with no slash is a path of its own. -/
theorem ofText_single (name : String) (hname : isMeaningful name.toList)
    (hslash : '/' ∉ name.toList) : ofText name = ⟨"", [name]⟩ := by
  have hnormal : Normal ⟨"", [name]⟩ := ⟨by simp, by simpa using ⟨hname, hslash⟩⟩
  rw [← hnormal.ofText_text, text_single]

end DotPath.FilePath

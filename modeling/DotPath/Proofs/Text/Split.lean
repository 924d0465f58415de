import DotPath.Text.Split
import Mathlib

set_option autoImplicit false

/-!
The parts of a text that is cut at a separator: none of them has a separator, and all that stands in
one of them stands in the text.
-/

namespace DotPath.Text

variable {α : Type} [DecidableEq α]

theorem split_eq_splitOn (sep : α) (cs : List α) : split sep cs = cs.splitOn sep := by
  induction cs with
  | nil => rfl
  | cons c cs ih =>
    rw [split, ih, List.splitOn_cons_eq_if_modifyHead]
    by_cases hc : c = sep
    · simp [hc]
    · cases hs : cs.splitOn sep with
      | nil => exact absurd hs (List.splitOn_ne_nil sep cs)
      | cons s ss => simp [hc]

theorem mem_of_mem_split (sep : α) (cs part : List α) (h : part ∈ split sep cs) (c : α)
    (hc : c ∈ part) : c ∈ cs ∧ c ≠ sep := by
  induction cs generalizing part with
  | nil => simp_all [split]
  | cons d cs ih =>
    rw [split] at h
    split at h
    · rcases List.mem_cons.1 h with rfl | h
      · simp at hc
      · obtain ⟨hmem, hne⟩ := ih part h hc
        exact ⟨List.mem_cons_of_mem d hmem, hne⟩
    next hd =>
      cases hs : split sep cs with
      | nil => exact absurd hs (split_ne_nil sep cs)
      | cons s ss =>
        rw [hs] at h
        rcases List.mem_cons.1 h with rfl | h
        · rcases List.mem_cons.1 hc with rfl | hc
          · exact ⟨List.mem_cons_self, hd⟩
          · obtain ⟨hmem, hne⟩ := ih s (by simp [hs]) hc
            exact ⟨List.mem_cons_of_mem d hmem, hne⟩
        · obtain ⟨hmem, hne⟩ := ih part (by simp [hs, h]) hc
          exact ⟨List.mem_cons_of_mem d hmem, hne⟩

theorem map_ofList_toList (texts : List String) :
    (texts.map String.toList).map String.ofList = texts := by
  simp [Function.comp_def]

/-- Texts without the separator are cut apart again where they were joined. -/
theorem splitOn_intercalate (sep : Char) (texts : List String) (hne : texts ≠ [])
    (h : ∀ s ∈ texts, sep ∉ s.toList) :
    ((String.singleton sep).intercalate texts).toList.splitOn sep = texts.map String.toList := by
  rw [String.toList_intercalate, String.toList_singleton]
  exact List.splitOn_intercalate sep (by simpa using h) (by simpa using hne)

end DotPath.Text

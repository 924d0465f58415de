import DotPath.Scalar
import DotPath.Table
import Mathlib

set_option autoImplicit false

/-!
What a table holds after entries are put into it: the keys of the entries, each with the value of
one of them. Being the same key is an equivalence of scalars, and a text is the same key as itself
alone.
-/

namespace DotPath

namespace Scalar

/-- What a scalar is as a key: an instant, or a scalar in its normal form. -/
def identity : Scalar → Bool × Int ⊕ Scalar
  | moment t => .inl (t.zone.isSome, t.instant)
  | s => .inr s.normal

theorem normal_ne_moment (s : Scalar) (t : Moment) (h : ∀ u, s ≠ moment u) :
    s.normal ≠ moment t := by
  cases s with
  | float x => cases hx : x.toInt? <;> simp [normal, hx]
  | moment u => exact absurd rfl (h u)
  | _ => simp [normal]

theorem identity_of_not_moment (s : Scalar) (h : ∀ u, s ≠ moment u) :
    s.identity = .inr s.normal := by
  cases s with
  | moment u => exact absurd rfl (h u)
  | _ => rfl

theorem same_of_not_moments (s t : Scalar) (h : ∀ u v, s = moment u → t ≠ moment v) :
    same s t = decide (s.normal = t.normal) := by
  unfold same
  split
  · exact absurd rfl (h _ _ rfl)
  · rfl

theorem same_iff (s t : Scalar) : same s t ↔ s.identity = t.identity := by
  by_cases hs : ∃ u, s = moment u <;> by_cases ht : ∃ v, t = moment v
  · obtain ⟨u, rfl⟩ := hs
    obtain ⟨v, rfl⟩ := ht
    simp [same, identity]
  · obtain ⟨u, rfl⟩ := hs
    rw [not_exists] at ht
    rw [same_of_not_moments _ t fun _ v _ => ht v, identity_of_not_moment t ht]
    have hn : (moment u).normal ≠ t.normal := (normal_ne_moment t u ht).symm
    simp [identity, hn]
  · obtain ⟨v, rfl⟩ := ht
    rw [not_exists] at hs
    rw [same_of_not_moments s _ fun u _ h => absurd h (hs u), identity_of_not_moment s hs]
    have hn : s.normal ≠ (moment v).normal := normal_ne_moment s v hs
    simp [identity, hn]
  · rw [not_exists] at hs ht
    rw [same_of_not_moments s t fun u _ h => absurd h (hs u), identity_of_not_moment s hs,
      identity_of_not_moment t ht]
    simp

instance : EquivBEq Scalar where
  symm {s t} h := (same_iff t s).2 ((same_iff s t).1 h).symm
  trans {s t u} hst htu := (same_iff s u).2 (((same_iff s t).1 hst).trans ((same_iff t u).1 htu))

theorem beq_text_iff (s : Scalar) (k : String) : s == .text k ↔ s = .text k := by
  change same s (.text k) ↔ _
  rw [same_of_not_moments s _ fun _ _ _ h => by simp at h, decide_eq_true_iff]
  cases s with
  | float x => cases hx : x.toInt? <;> simp [normal, hx]
  | _ => simp [normal]

end Scalar

namespace Table

variable {κ α : Type} [BEq κ]

theorem contains_iff (t : List (κ × α)) (k : κ) : contains t k ↔ ∃ j ∈ keys t, j == k := by
  induction t with
  | nil => simp [contains]
  | cons e t ih =>
    by_cases h : e.1 == k
    · simp [contains, get?, keys, h]
    · have ht : contains (e :: t) k = contains t k := by simp [contains, get?, h]
      have hk : keys (e :: t) = e.1 :: keys t := rfl
      simp [ht, hk, ih, h]

/-- Putting a value under a key adds that key, and it adds no other. -/
theorem contains_put [EquivBEq κ] (t : List (κ × α)) (k : κ) (v : α) (j : κ) :
    contains (put t k v) j ↔ contains t j ∨ k == j := by
  cases hk : contains t k with
  | true =>
    have hj : k == j → contains t j := by
      intro hkj
      obtain ⟨i, hi, hik⟩ := (contains_iff t k).1 hk
      exact (contains_iff t j).2 ⟨i, hi, BEq.trans hik hkj⟩
    rw [contains_iff, keys_put_of_contains t k v hk, ← contains_iff]
    exact ⟨.inl, fun h => h.elim id hj⟩
  | false =>
    rw [put_of_not_contains t k v hk, contains_iff, contains_iff]
    simp [keys, or_and_right, exists_or]

theorem contains_putAll [EquivBEq κ] (entries t : List (κ × α)) (j : κ) :
    contains (putAll t entries) j ↔ contains t j ∨ ∃ e ∈ entries, e.1 == j := by
  induction entries generalizing t with
  | nil => simp [putAll]
  | cons e entries ih =>
    have hput : putAll t (e :: entries) = putAll (put t e.1 e.2) entries := rfl
    rw [hput, ih, contains_put, or_assoc]
    simp

theorem contains_ofEntries [EquivBEq κ] (entries : List (κ × α)) (j : κ) :
    contains (ofEntries entries) j ↔ ∃ e ∈ entries, e.1 == j := by
  rw [ofEntries, contains_putAll]
  simp [contains]

theorem get?_put_of_ne [EquivBEq κ] (t : List (κ × α)) (k j : κ) (v : α) (h : (k == j) = false) :
    get? (put t k v) j = get? t j := by
  induction t with
  | nil => simp [put, get?, h]
  | cons e t ih =>
    obtain ⟨i, w⟩ := e
    cases hik : i == k with
    | true =>
      have hij : (i == j) = false := by
        rw [← h]
        exact BEq.congr_left hik
      simp [put, get?, hik, hij]
    | false => simp [put, get?, hik, ih]

theorem putAll_eq_append (entries t : List (κ × α)) (h : Distinct (t ++ entries)) :
    putAll t entries = t ++ entries := by
  induction entries generalizing t with
  | nil => simp [putAll]
  | cons e entries ih =>
    have hno : contains t e.1 = false := by
      rw [← Bool.not_eq_true, contains_iff]
      rintro ⟨k, hk, hke⟩
      obtain ⟨d, hd, rfl⟩ := List.mem_map.1 hk
      have hde := (List.pairwise_append.1 h).2.2 d hd e (by simp)
      simp [hde] at hke
    have hput : putAll t (e :: entries) = putAll (put t e.1 e.2) entries := rfl
    rw [hput, put_of_not_contains t e.1 e.2 hno, ih _ (by simpa using h), List.append_assoc]
    rfl

/-- Entries with distinct keys are a table as they stand. -/
theorem ofEntries_eq_self (entries : List (κ × α)) (h : Distinct entries) :
    ofEntries entries = entries :=
  putAll_eq_append entries [] h

theorem contains_text_iff (t : List (Scalar × α)) (k : String) :
    contains t (.text k) ↔ .text k ∈ keys t := by
  rw [contains_iff]
  simp [Scalar.beq_text_iff]

theorem text_mem_keys_ofEntries (entries : List (Scalar × α)) (k : String) :
    .text k ∈ keys (ofEntries entries) ↔ .text k ∈ keys entries := by
  rw [← contains_text_iff, contains_ofEntries]
  simp [Scalar.beq_text_iff, keys]

section Forall

variable (P : κ → Prop) (Q : α → Prop)

theorem forall_mem_put (t : List (κ × α)) (k : κ) (v : α) (ht : ∀ e ∈ t, P e.1 ∧ Q e.2) (hk : P k)
    (hv : Q v) : ∀ e ∈ put t k v, P e.1 ∧ Q e.2 := by
  induction t with
  | nil => simpa [put] using ⟨hk, hv⟩
  | cons a t ih =>
    obtain ⟨ha, ht⟩ := List.forall_mem_cons.1 ht
    rw [put]
    split
    · exact List.forall_mem_cons.2 ⟨⟨ha.1, hv⟩, ht⟩
    · exact List.forall_mem_cons.2 ⟨ha, ih ht⟩

theorem forall_mem_putAll (entries t : List (κ × α)) (ht : ∀ e ∈ t, P e.1 ∧ Q e.2)
    (he : ∀ e ∈ entries, P e.1 ∧ Q e.2) : ∀ e ∈ putAll t entries, P e.1 ∧ Q e.2 := by
  induction entries generalizing t with
  | nil => exact ht
  | cons a entries ih =>
    obtain ⟨ha, he⟩ := List.forall_mem_cons.1 he
    exact ih (put t a.1 a.2) (forall_mem_put P Q t a.1 a.2 ht ha.1 ha.2) he

/-- A table is made of keys and values of its entries. -/
theorem forall_mem_ofEntries (entries : List (κ × α)) (he : ∀ e ∈ entries, P e.1 ∧ Q e.2) :
    ∀ e ∈ ofEntries entries, P e.1 ∧ Q e.2 :=
  forall_mem_putAll P Q entries [] (by simp) he

end Forall

section Distinct

theorem distinct_put (t : List (κ × α)) (k : κ) (v : α) (h : Distinct t) :
    Distinct (put t k v) := by
  induction t with
  | nil => simp [put, Distinct]
  | cons e t ih =>
    obtain ⟨hne, ht⟩ := List.pairwise_cons.1 h
    rw [put]
    split
    next => exact List.pairwise_cons.2 ⟨hne, ht⟩
    next hek =>
      have hput := forall_mem_put (fun j => (e.1 == j) = false) (fun _ => True) t k v
        (fun d hd => ⟨hne d hd, trivial⟩) (by simpa using hek) trivial
      exact List.pairwise_cons.2 ⟨fun d hd => (hput d hd).1, ih ht⟩

theorem distinct_putAll (entries t : List (κ × α)) (h : Distinct t) :
    Distinct (putAll t entries) := by
  induction entries generalizing t with
  | nil => exact h
  | cons e entries ih => exact ih _ (distinct_put t e.1 e.2 h)

/-- In a table no key comes twice. -/
theorem distinct_ofEntries (entries : List (κ × α)) : Distinct (ofEntries entries) :=
  distinct_putAll entries [] .nil

theorem distinct_iff (t : List (κ × α)) :
    Distinct t ↔ (keys t).Pairwise fun j k => (j == k) = false := by
  rw [keys, List.pairwise_map, Distinct]

end Distinct

end Table

end DotPath

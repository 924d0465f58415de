import DotPath.Proofs.Table

set_option autoImplicit false

/-!
What entries come to whose keys come again. Put into a table one after the other, they leave each
key in its first place with its last value, and fewer entries than they were.
-/

namespace DotPath.Table

variable {κ α : Type} [BEq κ]

/-- Every key in the place where it was written first, with the value that was written last. -/
structure Merged (written entries : List (κ × α)) : Prop where
  first : keys entries = (keys written).eraseDups
  last : ∀ k, get? entries k = get? written.reverse k

theorem get?_append (s t : List (κ × α)) (k : κ) :
    get? (s ++ t) k = (get? s k).or (get? t k) := by
  induction s with
  | nil => rfl
  | cons e s ih =>
    rw [List.cons_append, get?, get?, ih]
    split <;> rfl

theorem get?_eq_none_iff (t : List (κ × α)) (k : κ) :
    get? t k = none ↔ ∀ j ∈ keys t, (j == k) = false := by
  have hcontains : get? t k = none ↔ ¬ contains t k := by simp [contains]
  rw [hcontains, contains_iff]
  simp

theorem get?_eq_none_iff_notMem [LawfulBEq κ] (t : List (κ × α)) (k : κ) :
    get? t k = none ↔ k ∉ keys t := by
  rw [get?_eq_none_iff]
  simp only [beq_eq_false_iff_ne]
  exact ⟨fun h hk => h k hk rfl, fun h j hj hjk => h (hjk ▸ hj)⟩

theorem mem_keys_iff [LawfulBEq κ] (t : List (κ × α)) (k : κ) :
    k ∈ keys t ↔ ∃ v, get? t k = some v := by
  rw [← Option.ne_none_iff_exists', Ne, get?_eq_none_iff_notMem, not_not]

/-- Where no key comes again, the order of the entries does not matter. -/
theorem get?_of_perm [LawfulBEq κ] (s t : List (κ × α)) (hperm : s.Perm t) (h : (keys t).Nodup)
    (k : κ) : get? s k = get? t k := by
  induction hperm with
  | nil => rfl
  | cons e hperm ih => rw [get?, get?, ih (List.nodup_cons.1 h).2]
  | swap d e t =>
    have hne : d.1 ≠ e.1 := by
      rintro heq
      simp [keys, heq] at h
    by_cases hd : d.1 = k
    · have he : e.1 ≠ k := fun he => hne (hd.trans he.symm)
      simp [get?, hd, he]
    · simp [get?, hd]
  | trans hst htu ihst ihtu => exact (ihst ((htu.map _).nodup_iff.2 h)).trans (ihtu h)

omit [BEq κ] in
theorem length_keys (t : List (κ × α)) : (keys t).length = t.length := List.length_map _

theorem length_put_of_contains (t : List (κ × α)) (k : κ) (v : α) (h : contains t k) :
    (put t k v).length = t.length := by
  rw [← length_keys, keys_put_of_contains t k v h, length_keys]

theorem length_put_le (t : List (κ × α)) (k : κ) (v : α) : (put t k v).length ≤ t.length + 1 := by
  cases h : contains t k with
  | true => simp [length_put_of_contains t k v h]
  | false => simp [put_of_not_contains t k v h]

theorem length_putAll_le (entries t : List (κ × α)) :
    (putAll t entries).length ≤ t.length + entries.length := by
  induction entries generalizing t with
  | nil => rfl
  | cons e entries ih =>
    calc (putAll (put t e.1 e.2) entries).length
      _ ≤ (put t e.1 e.2).length + entries.length := ih _
      _ ≤ t.length + (entries.length + 1) := by have := length_put_le t e.1 e.2; omega

theorem distinct_of_length_putAll (entries t : List (κ × α)) (ht : Distinct t)
    (h : (putAll t entries).length = t.length + entries.length) : Distinct (t ++ entries) := by
  -- A key that is there already would make the table one entry short, for good.
  induction entries generalizing t with
  | nil => simpa using ht
  | cons e entries ih =>
    have hput : (putAll (put t e.1 e.2) entries).length = t.length + (entries.length + 1) := h
    have hle := length_putAll_le entries (put t e.1 e.2)
    cases hk : contains t e.1 with
    | true =>
      rw [length_put_of_contains t e.1 e.2 hk] at hle
      omega
    | false =>
      have hnew : Distinct (t ++ [e]) := by
        rw [← put_of_not_contains t e.1 e.2 hk]
        exact distinct_put t e.1 e.2 ht
      rw [put_of_not_contains t e.1 e.2 hk] at hput
      simpa using ih (t ++ [e]) hnew (by rw [hput, List.length_append]; simp; omega)

theorem length_ofEntries_lt_iff (entries : List (κ × α)) :
    (ofEntries entries).length < entries.length ↔ ¬ Distinct entries := by
  constructor
  · intro hlt hdistinct
    rw [ofEntries_eq_self entries hdistinct] at hlt
    omega
  · intro h
    have hle : (ofEntries entries).length ≤ 0 + entries.length := length_putAll_le entries []
    rw [Nat.zero_add] at hle
    refine lt_of_le_of_ne hle fun heq => h ?_
    exact distinct_of_length_putAll entries [] .nil (heq.trans (Nat.zero_add _).symm)

theorem forall_values_ofEntries (P : α → Prop) (entries : List (κ × α))
    (h : ∀ e ∈ entries, P e.2) : ∀ e ∈ ofEntries entries, P e.2 := fun e he =>
  (forall_mem_ofEntries (fun _ => True) P entries (fun d hd => ⟨trivial, h d hd⟩) e he).2

theorem not_distinct_iff (entries : List (κ × α)) :
    ¬ Distinct entries ↔ ∃ before e after, entries = before ++ e :: after ∧
      ∃ k ∈ keys after, e.1 == k := by
  induction entries with
  | nil => simp [Distinct]
  | cons e entries ih =>
    have hcons : Distinct (e :: entries) ↔
        (∀ k ∈ keys entries, (e.1 == k) = false) ∧ Distinct entries := by
      simp [Distinct, keys]
    rw [hcons, not_and_or, ih]
    constructor
    · rintro (hsame | ⟨before, d, after, rfl, hd⟩)
      · exact ⟨[], e, entries, rfl, by simpa using hsame⟩
      · exact ⟨e :: before, d, after, rfl, hd⟩
    · rintro ⟨before, d, after, hentries, hd⟩
      cases before with
      | nil =>
        obtain ⟨rfl, rfl⟩ := List.cons.inj hentries
        exact .inl (by simpa using hd)
      | cons _ before =>
        obtain ⟨rfl, rfl⟩ := List.cons.inj hentries
        exact .inr ⟨before, d, after, rfl, hd⟩

section Equivalence

variable [EquivBEq κ]

theorem get?_congr (t : List (κ × α)) (j k : κ) (h : j == k) : get? t j = get? t k := by
  induction t with
  | nil => rfl
  | cons e t ih => rw [get?, get?, BEq.congr_right h, ih]

theorem get?_of_mem (t : List (κ × α)) (e : κ × α) (k : κ) (h : Distinct t) (he : e ∈ t)
    (hek : e.1 == k) : get? t k = some e.2 := by
  induction t with
  | nil => cases he
  | cons d t ih =>
    obtain ⟨hd, ht⟩ := List.pairwise_cons.1 h
    rw [get?]
    obtain rfl | he := List.mem_cons.1 he
    · rw [if_pos hek]
    · have hdk : (d.1 == k) = false := by rw [← BEq.congr_right hek, hd e he]
      rw [hdk, ih ht he]
      rfl

theorem contains_congr (t : List (κ × α)) (j k : κ) (h : j == k) : contains t j = contains t k := by
  rw [contains, contains, get?_congr t j k h]

theorem get?_putAll (entries t : List (κ × α)) (k : κ) :
    get? (putAll t entries) k = (get? entries.reverse k).or (get? t k) := by
  induction entries generalizing t with
  | nil => rfl
  | cons e entries ih =>
    have hput : get? (put t e.1 e.2) k = (get? [e] k).or (get? t k) := by
      cases hk : e.1 == k with
      | true => simp [get?, hk, ← get?_congr (put t e.1 e.2) e.1 k hk, get?_put_self]
      | false => simp [get?, hk, get?_put_of_ne t e.1 k e.2 hk]
    calc get? (putAll (put t e.1 e.2) entries) k
      _ = (get? entries.reverse k).or (get? (put t e.1 e.2) k) := ih _
      _ = (get? (e :: entries).reverse k).or (get? t k) := by
        rw [hput, List.reverse_cons, get?_append, Option.or_assoc]

theorem contains_put_eq (t : List (κ × α)) (k : κ) (v : α) (j : κ) :
    contains (put t k v) j = (contains t j || k == j) := by
  rw [Bool.eq_iff_iff, Bool.or_eq_true]
  exact contains_put t k v j

theorem keys_putAll (entries t : List (κ × α)) :
    keys (putAll t entries) = keys t ++ ((keys entries).filter (!contains t ·)).eraseDups := by
  induction entries generalizing t with
  | nil => simp [putAll]
  | cons e entries ih =>
    have hput : keys (putAll t (e :: entries)) = keys (put t e.1 e.2) ++
        ((keys entries).filter (!contains (put t e.1 e.2) ·)).eraseDups := ih _
    have hcons : keys (e :: entries) = e.1 :: keys entries := rfl
    rw [hput, hcons]
    cases hk : contains t e.1 with
    | true =>
      have hsame : ∀ j, contains (put t e.1 e.2) j = contains t j := fun j => by
        rw [contains_put_eq]
        cases hj : e.1 == j with
        | true => simp [← contains_congr t e.1 j hj, hk]
        | false => simp
      simp only [hsame]
      rw [keys_put_of_contains t e.1 e.2 hk, List.filter_cons_of_neg (by simp [hk])]
    | false =>
      have hrest : (keys entries).filter (!contains (put t e.1 e.2) ·) =
          ((keys entries).filter (!contains t ·)).filter (fun j => !j == e.1) := by
        rw [List.filter_filter]
        refine List.filter_congr fun j _ => ?_
        rw [contains_put_eq, Bool.not_or, BEq.comm, Bool.and_comm]
      have hkeys : keys (put t e.1 e.2) = keys t ++ [e.1] := by
        rw [put_of_not_contains t e.1 e.2 hk]
        simp [keys]
      rw [List.filter_cons_of_pos (by simp [hk]), List.eraseDups_cons, hrest, hkeys,
        List.append_assoc]
      rfl

theorem merged_ofEntries (entries : List (κ × α)) : Merged entries (ofEntries entries) where
  first := by
    rw [ofEntries, keys_putAll]
    simp [contains, get?]
  last k := by
    rw [ofEntries, get?_putAll]
    simp

end Equivalence

end DotPath.Table

import DotPath.Proofs.Path.Composition
import DotPath.Proofs.Path.Location
import DotPath.Proofs.Value.Trail

set_option autoImplicit false

/-!
The trail of a path: the keys and elements that it goes over, up to the value that it leads to, or
to the value or the missing key at which it fails. What stands off the trail makes no difference to
what a path leads to, nor to what is said when it fails.
-/

namespace DotPath.Path

open Text Value

/-- The hop that an index is, where it counts. -/
def hopOf (target : Value) (index : Option Int) : Trail :=
  match index, target.items? with
  | some i, some _ => [.item i.toNat]
  | _, _ => []

/-- The trail from what stands under a key, `rest` telling how it goes on from a value. An index
that fails leaves the trail where it is. -/
def trailPast (target : Value) (index : Option Int) (rest : Value → Trail) : Trail :=
  match pick target index with
  | .error _ => []
  | .ok u => hopOf target index ++ rest u

/-- The trail of later segments from a value. -/
def trailFrom : Value → List Segment → Trail
  | _, [] => []
  | v, s :: ss =>
    match v.entries?, v.under? s.key with
    | none, _ => []
    | some _, none => [.key (.text s.key)]
    | some _, some target =>
      .key (.text s.key) ::
        if s.index.isSome && !target.kind.isContainer then []
        else trailPast target s.index (trailFrom · ss)

/-- The trail of segments from the top. -/
def trail (top : Entries) : List Segment → Trail
  | [] => []
  | s :: ss =>
    .key (.text s.key) ::
      match (mapping top).under? s.key with
      | none => []
      | some target => trailPast target s.index (trailFrom · ss)

/-- The trail of a path that can be read. -/
def trailOf? (top : Entries) (path : String) : Option Trail := (parse path).toOption.map (trail top)

section Steps

theorem trailFrom_no_keys (v : Value) (s : Segment) (ss : List Segment) (h : v.kind ≠ .object) :
    trailFrom v (s :: ss) = [] := by
  rw [trailFrom, v.entries?_eq_none h]

theorem trailFrom_missing (v : Value) (s : Segment) (ss : List Segment) (hv : v.kind = .object)
    (h : v.under? s.key = none) : trailFrom v (s :: ss) = [.key (.text s.key)] := by
  obtain ⟨m, hm⟩ := v.exists_entries? hv
  rw [trailFrom, hm, h]

theorem trailFrom_leaf (v : Value) (s : Segment) (ss : List Segment) (target : Value)
    (h : v.under? s.key = some target) (hs : s.index.isSome ∧ target.kind.isContainer = false) :
    trailFrom v (s :: ss) = [.key (.text s.key)] := by
  obtain ⟨m, hm⟩ := v.entries?_of_under? target s.key h
  rw [trailFrom, hm, h]
  simp [hs.1, hs.2]

theorem trailFrom_found (v : Value) (s : Segment) (ss : List Segment) (target : Value)
    (h : v.under? s.key = some target) (hs : ¬ (s.index.isSome ∧ target.kind.isContainer = false)) :
    trailFrom v (s :: ss) = .key (.text s.key) :: trailPast target s.index (trailFrom · ss) := by
  obtain ⟨m, hm⟩ := v.entries?_of_under? target s.key h
  have hc : (s.index.isSome && !target.kind.isContainer) = false := by simpa using hs
  simp [trailFrom, hm, h, hc]

theorem trail_missing (top : Entries) (s : Segment) (ss : List Segment)
    (h : (mapping top).under? s.key = none) : trail top (s :: ss) = [.key (.text s.key)] := by
  rw [trail, h]

theorem trail_found (top : Entries) (s : Segment) (ss : List Segment) (target : Value)
    (h : (mapping top).under? s.key = some target) :
    trail top (s :: ss) = .key (.text s.key) :: trailPast target s.index (trailFrom · ss) := by
  rw [trail, h]

theorem trailPast_of_ok (target u : Value) (index : Option Int) (rest : Value → Trail)
    (h : pick target index = .ok u) :
    trailPast target index rest = hopOf target index ++ rest u := by
  rw [trailPast, h]

theorem trailPast_of_error (target : Value) (index : Option Int) (rest : Value → Trail)
    (p : Problem) (h : pick target index = .error p) : trailPast target index rest = [] := by
  rw [trailPast, h]

/-- An index either does not count, and values of such a kind are taken whole, or it counts on a
sequence. -/
theorem pick_cases (target : Value) (index : Option Int) :
    ((∀ v : Value, v.kind = target.kind → pick v index = .ok v) ∧ hopOf target index = []) ∨
      ∃ i items, index = some i ∧ target.items? = some items ∧
        pick target index = element items i ∧ hopOf target index = [.item i.toNat] := by
  cases index with
  | none => exact .inl ⟨fun v _ => rfl, by simp [hopOf]⟩
  | some i =>
    cases hitems : target.items? with
    | none =>
      have hk : target.kind ≠ .sequence := by simp [kind_eq_sequence_iff, hitems]
      exact .inl ⟨fun v hv => pick_of_not_sequence v _ (by rwa [hv]), by simp [hopOf, hitems]⟩
    | some items => exact .inr ⟨i, items, rfl, rfl, by simp [pick, hitems], by simp [hopOf, hitems]⟩

end Steps

section Followed

/-- What a problem says of the end of a trail: of a key that an object does not have, of a value
that is no object, of a value that an index does not go with, or of a sequence too short. -/
inductive EndsIn (v : Value) : Trail → Problem → Prop where
  | missing (t : Trail) (u : Value) (key path reason : String) (hu : v.along? t = some u)
      (hobject : u.kind = .object) (hkey : u.under? key = none) :
      EndsIn v (t ++ [.key (.text key)]) (.valueNotFound key path reason)
  | noKeys (t : Trail) (u : Value) (key path : String) (hu : v.along? t = some u)
      (hobject : u.kind ≠ .object) : EndsIn v t (.valueNotFound key path (lack u))
  | leaf (t : Trail) (u : Value) (key : String) (hu : v.along? t = some u)
      (hleaf : u.kind.isContainer = false) : EndsIn v t (.indexOnNonContainer key u.kind)
  | outside (t : Trail) (u : Value) (items : List Value) (i : Int) (hu : v.along? t = some u)
      (hitems : u.items? = some items) (hi : i < 0 ∨ items.length ≤ i) :
      EndsIn v t (.indexOutOfBounds i items.length)

/-- The trail is the one that leads to the outcome: to the value, or to what the problem tells. -/
def LeadsTo (v : Value) (t : Trail) : Except Problem Value → Prop
  | .ok u => v.along? t = some u
  | .error p => EndsIn v t p

theorem along?_cons (v u : Value) (h : Hop) (t : Trail) (hu : v.after? h = some u) :
    v.along? (h :: t) = u.along? t := by
  rw [along?, hu, Option.bind_some]

theorem EndsIn.cons (v u : Value) (h : Hop) (t : Trail) (p : Problem) (hu : v.after? h = some u)
    (ht : EndsIn u t p) : EndsIn v (h :: t) p := by
  cases ht with
  | missing t w key path reason hw hobject hkey =>
    exact .missing (h :: t) w key path reason ((along?_cons v u h t hu).trans hw) hobject hkey
  | noKeys t w key path hw hobject =>
    exact .noKeys (h :: t) w key path ((along?_cons v u h t hu).trans hw) hobject
  | leaf t w key hw hleaf => exact .leaf (h :: t) w key ((along?_cons v u h t hu).trans hw) hleaf
  | outside t w items i hw hitems hi =>
    exact .outside (h :: t) w items i ((along?_cons v u h t hu).trans hw) hitems hi

theorem LeadsTo.cons (v u : Value) (h : Hop) (t : Trail) (r : Except Problem Value)
    (hu : v.after? h = some u) (ht : LeadsTo u t r) : LeadsTo v (h :: t) r := by
  cases r with
  | ok w => exact (along?_cons v u h t hu).trans ht
  | error p => exact EndsIn.cons v u h t p hu ht

theorem after?_of_under? (v u : Value) (key : String) (h : v.under? key = some u) :
    v.after? (.key (.text key)) = some u := h

theorem leadsTo_trailPast (target : Value) (index : Option Int) (rest : Value → Trail)
    (f : Value → Except Problem Value) (hrest : ∀ u, LeadsTo u (rest u) (f u)) :
    LeadsTo target (trailPast target index rest) (pick target index >>= f) := by
  obtain ⟨hpick, hhop⟩ | ⟨i, items, rfl, hitems, hpick, hhop⟩ := pick_cases target index
  · rw [trailPast_of_ok _ _ _ _ (hpick target rfl), hhop, hpick target rfl]
    exact hrest target
  · cases he : element items i with
    | error p =>
      rw [he] at hpick
      rw [trailPast_of_error _ _ _ p hpick, hpick]
      rw [element] at he
      split at he
      next hi =>
        obtain rfl := Except.error.inj he
        exact .outside [] target items i rfl hitems hi
      next => cases he
    | ok u =>
      rw [he] at hpick
      rw [trailPast_of_ok _ u _ _ hpick, hhop, hpick]
      have hu : target.after? (.item i.toNat) = some u := by
        rw [after?, hitems]
        exact ((element_eq_ok_iff items i u).1 he).2
      exact LeadsTo.cons target u _ _ _ hu (hrest u)

theorem leadsTo_trailFrom (path : String) (v : Value) (ss : List Segment) :
    LeadsTo v (trailFrom v ss) (follow path v ss) := by
  induction ss generalizing v with
  | nil => rfl
  | cons s ss ih =>
    rw [follow_cons]
    by_cases hv : v.kind = .object
    · cases h : v.under? s.key with
      | none =>
        rw [trailFrom_missing v s ss hv h, enter_missing path v s hv h]
        exact .missing [] v s.key path _ rfl hv h
      | some target =>
        have ht := after?_of_under? v target s.key h
        by_cases hs : s.index.isSome ∧ target.kind.isContainer = false
        · rw [trailFrom_leaf v s ss target h hs, enter_leaf path v s target h hs.1 hs.2]
          exact .leaf [_] target s.key (along?_cons v target _ [] ht) hs.2
        · rw [trailFrom_found v s ss target h hs, enter_found path v s target h hs]
          exact LeadsTo.cons v target _ _ _ ht (leadsTo_trailPast target s.index _ _ ih)
    · rw [trailFrom_no_keys v s ss hv, enter_no_keys path v s hv]
      exact .noKeys [] v s.key path rfl hv

/-- The trail of segments is the one that they go. -/
theorem leadsTo_trail (path : String) (top : Entries) (ss : List Segment) :
    LeadsTo (mapping top) (trail top ss) (walk path top ss) := by
  cases ss with
  | nil => rfl
  | cons s ss =>
    rw [walk]
    cases h : (mapping top).under? s.key with
    | none =>
      rw [trail_missing top s ss h, enterTop_missing path top s h]
      exact .missing [] (mapping top) s.key path _ rfl rfl h
    | some target =>
      rw [trail_found top s ss target h, enterTop_found path top s target h]
      exact LeadsTo.cons _ target _ _ _ h
        (leadsTo_trailPast target s.index _ _ (leadsTo_trailFrom path · ss))

end Followed

section Elsewhere

variable (w : Value)

theorem isNull_of_isContainer (v : Value) (h : v.kind.isContainer) : v.isNull = false := by
  cases v with
  | scalar s => cases s <;> first | rfl | cases h
  | _ => rfl

/-- What a segment finds in a container is told by the kind and by what stands under its key. -/
theorem enter_congr (path : String) (v v' : Value) (s : Segment) (hc : v.kind.isContainer)
    (hk : v'.kind = v.kind) (hu : v'.under? s.key = v.under? s.key) :
    enter path v' s = enter path v s := by
  by_cases hv : v.kind = .object
  · have hv' : v'.kind = .object := hk.trans hv
    cases h : v.under? s.key with
    | none => rw [enter_missing path v s hv h, enter_missing path v' s hv' (hu.trans h)]
    | some target =>
      by_cases hs : s.index.isSome ∧ target.kind.isContainer = false
      · rw [enter_leaf path v s target h hs.1 hs.2,
          enter_leaf path v' s target (hu.trans h) hs.1 hs.2]
      · rw [enter_found path v s target h hs, enter_found path v' s target (hu.trans h) hs]
  · have hlack : lack v' = lack v := by
      rw [lack, lack, isNull_of_isContainer v hc, isNull_of_isContainer v' (by rwa [hk]), hk]
    rw [enter_no_keys path v s hv, enter_no_keys path v' s (by rwa [hk]), hlack]

theorem enterTop_congr (path : String) (top top' : Entries) (s : Segment)
    (hu : (mapping top').under? s.key = (mapping top).under? s.key) :
    enterTop path top' s = enterTop path top s := by
  cases h : (mapping top).under? s.key with
  | none => rw [enterTop_missing path top s h, enterTop_missing path top' s (hu.trans h)]
  | some target =>
    rw [enterTop_found path top s target h, enterTop_found path top' s target (hu.trans h)]

/-- A hop elsewhere leaves what stands under a key. -/
theorem under?_withAfter_of_ne (v u : Value) (h : Hop) (key : String) (hu : v.after? h = some u)
    (hne : h ≠ .key (.text key)) : (v.withAfter h w).under? key = v.under? key := by
  cases h with
  | key k =>
    obtain ⟨m, hm, -⟩ := v.after?_key u k hu
    have hk : (k == .text key) = false := by
      rw [← Bool.not_eq_true, Scalar.beq_text_iff]
      rintro rfl
      exact hne rfl
    rw [withAfter_key v m hm, under?_of_entries? _ _ rfl, under?_of_entries? v m hm,
      Table.get?_put_of_ne m k _ w hk]
  | item i =>
    obtain ⟨items, hitems, -⟩ := v.after?_item u i hu
    have hnone : ∀ x : Value, x.kind = .sequence → x.under? key = none := fun x hx =>
      x.under?_eq_none key (x.entries?_eq_none (by simp [hx]))
    have hv := v.kind_eq_sequence items hitems
    rw [hnone v hv, hnone _ ((v.kind_withAfter u w _ hu).trans hv)]

theorem under?_withAfter_self (v u : Value) (key : String) (hu : v.under? key = some u) :
    (v.withAfter (.key (.text key)) w).under? key = some w := by
  obtain ⟨m, hm⟩ := v.entries?_of_under? u key hu
  rw [withAfter_key v m hm, under?_of_entries? _ _ rfl, Table.get?_put_self]

/-- A hop elsewhere in a sequence leaves the element of an index, or that there is none. -/
theorem element_set_of_ne (items : List Value) (i : Int) (j : Nat) (h : j ≠ i.toNat) :
    element (items.set j w) i = element items i := by
  simp only [element, List.length_set, List.get_eq_getElem, List.getElem_set_ne h]

theorem element_set_of_error (items : List Value) (i : Int) (j : Nat) (p : Problem)
    (h : element items i = .error p) : element (items.set j w) i = .error p := by
  rw [element] at h
  split at h
  next hi => simpa [element, hi] using h
  next => cases h

theorem element_set_self (items : List Value) (u : Value) (i : Int)
    (h : element items i = .ok u) : element (items.set i.toNat w) i = .ok w := by
  obtain ⟨h0, hu⟩ := (element_eq_ok_iff items i u).1 h
  obtain ⟨hlt, -⟩ := List.getElem?_eq_some_iff.1 hu
  exact (element_eq_ok_iff _ i w).2 ⟨h0, List.getElem?_set_self hlt⟩

/-- Past a key the walk does not see a change off its trail if what goes on does not: an index that
does not count goes on in the same value, and one that counts in an element. -/
theorem pick_withAlong (target : Value) (index : Option Int) (l : Trail) (rest : Value → Trail)
    (f : Value → Except Problem Value)
    (hf : ∀ u l, (u.along? l).isSome → ¬ l <+: rest u → (rest u <+: l → ∃ p, f u = .error p) →
      f (withAlong w l u) = f u)
    (hl : (target.along? l).isSome) (hno : ¬ l <+: trailPast target index rest)
    (hend : trailPast target index rest <+: l → ∃ p, (pick target index >>= f) = .error p) :
    (pick (withAlong w l target) index >>= f) = (pick target index >>= f) := by
  cases l with
  | nil => exact absurd List.nil_prefix hno
  | cons h t =>
    have hk := kind_withAlong target w (h :: t) hl (by simp)
    obtain ⟨hpick, hhop⟩ | ⟨i, items, rfl, hitems, hpick, hhop⟩ := pick_cases target index
    · rw [trailPast_of_ok _ _ _ _ (hpick target rfl), hhop, List.nil_append] at hno hend
      rw [hpick target rfl] at hend
      rw [hpick target rfl, hpick _ hk]
      exact hf target (h :: t) hl hno hend
    · obtain ⟨u, hu, ht⟩ := target.exists_after? h t hl
      obtain ⟨j, rfl⟩ : ∃ j, h = .item j := by
        cases h with
        | item j => exact ⟨j, rfl⟩
        | key k =>
          obtain ⟨m, hm, -⟩ := target.after?_key u k hu
          rw [target.items?_of_entries? m hm] at hitems
          cases hitems
      rw [withAlong_cons target u w _ t hu,
        pick_of_items? _ _ i (target.items?_withAfter items hitems j _), hpick]
      cases he : element items i with
      | error p => exact congrArg (· >>= f) (element_set_of_error _ items i j p he)
      | ok x =>
        by_cases hj : j = i.toNat
        · subst hj
          obtain rfl : x = u := by
            rw [after?, hitems] at hu
            exact Option.some.inj (((element_eq_ok_iff items i x).1 he).2.symm.trans hu)
          rw [he] at hpick
          rw [trailPast_of_ok _ x _ _ hpick, hhop, List.singleton_append,
            List.cons_prefix_cons] at hno hend
          rw [hpick] at hend
          rw [element_set_self _ items x i he]
          exact hf x t ht (fun hx => hno ⟨rfl, hx⟩) fun hx => hend ⟨rfl, hx⟩
        · rw [element_set_of_ne _ items i j hj, he]

/-- A change off the trail of later segments is not seen by them. Where the walk fails, what lies
past the end of its trail is off the trail, too. -/
theorem follow_withAlong (path : String) (v : Value) (ss : List Segment) (l : Trail)
    (hl : (v.along? l).isSome) (hno : ¬ l <+: trailFrom v ss)
    (hend : trailFrom v ss <+: l → ∃ p, follow path v ss = .error p) :
    follow path (withAlong w l v) ss = follow path v ss := by
  induction ss generalizing v l with
  | nil =>
    obtain ⟨p, hp⟩ := hend List.nil_prefix
    cases hp
  | cons s ss ih =>
    cases l with
    | nil => exact absurd List.nil_prefix hno
    | cons h t =>
      obtain ⟨u, hu, ht⟩ := v.exists_after? h t hl
      rw [withAlong_cons v u w h t hu, follow_cons, follow_cons]
      by_cases hh : h = .key (.text s.key)
      · subst hh
        have hs : ¬ (s.index.isSome ∧ u.kind.isContainer = false) := by
          intro hs
          rw [trailFrom_leaf v s ss u hu hs, List.cons_prefix_cons] at hno
          have hc := u.isContainer_of_along? t ht (by rintro rfl; simp at hno)
          simp [hs.2] at hc
        have hne : t ≠ [] := by
          rintro rfl
          rw [trailFrom_found v s ss u hu hs] at hno
          simp at hno
        have hs' : ¬ (s.index.isSome ∧ (withAlong w t u).kind.isContainer = false) := by
          rwa [kind_withAlong u w t ht hne]
        rw [trailFrom_found v s ss u hu hs, List.cons_prefix_cons] at hno hend
        rw [follow_cons] at hend
        rw [enter_found path v s u hu hs] at hend ⊢
        rw [enter_found path _ s _ (under?_withAfter_self _ v u s.key hu) hs']
        exact pick_withAlong w u s.index t _ _ ih ht (by simpa using hno) (by simpa using hend)
      · have hc := v.isContainer_of_along? (h :: t) hl (by simp)
        rw [enter_congr path v _ s hc (v.kind_withAfter u _ h hu)
          (under?_withAfter_of_ne _ v u h s.key hu hh)]

/-- A change off the trail of segments is not seen by them. -/
theorem walk_withAlong (path : String) (top : Entries) (ss : List Segment) (l : Trail)
    (hl : ((mapping top).along? l).isSome) (hno : ¬ l <+: trail top ss)
    (hend : trail top ss <+: l → ∃ p, walk path top ss = .error p) :
    ∃ top', withAlong w l (mapping top) = mapping top' ∧ walk path top' ss = walk path top ss := by
  cases l with
  | nil => exact absurd List.nil_prefix hno
  | cons h t =>
  cases ss with
  | nil =>
    obtain ⟨p, hp⟩ := hend List.nil_prefix
    cases hp
  | cons s ss =>
    obtain ⟨k, u, rfl, hu, ht, htop⟩ := withAlong_mapping top w h t hl
    refine ⟨_, htop, ?_⟩
    rw [walk, walk]
    by_cases hk : k = .text s.key
    · subst hk
      have hself : (mapping (Table.put top (.text s.key) (withAlong w t u))).under? s.key =
          some (withAlong w t u) := under?_withAfter_self _ (mapping top) u s.key hu
      rw [trail_found top s ss u hu, List.cons_prefix_cons] at hno hend
      rw [walk, enterTop_found path top s u hu] at hend
      rw [enterTop_found path _ s _ hself, enterTop_found path top s u hu]
      exact pick_withAlong w u s.index t _ _ (follow_withAlong w path · ss) ht
        (fun ht => hno ⟨rfl, ht⟩) fun ht => hend ⟨rfl, ht⟩
    · have hother : (mapping (Table.put top k (withAlong w t u))).under? s.key =
          (mapping top).under? s.key :=
        under?_withAfter_of_ne _ (mapping top) u (.key k) s.key hu (by simpa using hk)
      rw [enterTop_congr path top _ s hother]

end Elsewhere

theorem trailOf?_of_parse (top : Entries) (path : String) (ss : List Segment)
    (h : parse path = .ok ss) : trailOf? top path = some (trail top ss) := by
  rw [trailOf?, h]
  rfl

theorem exists_parse_of_trailOf? (top : Entries) (path : String) (a : Trail)
    (h : trailOf? top path = some a) : ∃ ss, parse path = .ok ss ∧ trail top ss = a := by
  cases hp : parse path with
  | error f => simp [trailOf?, hp, Except.toOption] at h
  | ok ss => exact ⟨ss, rfl, by simpa [trailOf?_of_parse top path ss hp] using h⟩

theorem resolve_withAlong (top : Entries) (path : String) (l : Trail) (w : Value)
    (hl : ((mapping top).along? l).isSome)
    (hoff : ∀ a, trailOf? top path = some a → ¬ l <+: a ∧ ¬ a <+: l) :
    resolveIn (withAlong w l (mapping top)) (.text path) = resolve top path := by
  cases hp : parse path with
  | error f =>
    rw [resolveIn_of_parse_error _ path f hp, resolve, hp]
    rfl
  | ok ss =>
    obtain ⟨hno, hend⟩ := hoff _ (trailOf?_of_parse top path ss hp)
    obtain ⟨top', htop, hwalk⟩ := walk_withAlong w path top ss l hl hno fun h => absurd h hend
    rw [htop]
    change resolve top' path = _
    rw [resolve_of_parse top' path ss hp, resolve_of_parse top path ss hp, hwalk]

/-- Entries at the top that agree on the key of the first segment are alike to a path. -/
theorem resolve_congr (top top' : Entries) (path : String)
    (h : ∀ s ss, parse path = .ok (s :: ss) →
      Table.get? top' (.text s.key) = Table.get? top (.text s.key)) :
    resolve top' path = resolve top path := by
  cases hp : parse path with
  | error f => rw [resolve, resolve, hp]; rfl
  | ok ss =>
    obtain ⟨s, ss, rfl⟩ := List.exists_cons_of_ne_nil (parse_ne_nil path ss hp)
    rw [resolve_of_parse top' path _ hp, resolve_of_parse top path _ hp, walk, walk,
      enterTop_congr path top top' s (h s ss hp)]

/-- A path is resolved along its trail, and nothing off that trail makes a difference: no other
value at a place that exists and is neither above nor below the trail, and no entry at the top that
comes or goes under another key than that of the first segment. -/
theorem resolve_reads_trail (top : Entries) (path : String) :
    (∀ a, trailOf? top path = some a → ∃ r, LeadsTo (mapping top) a r ∧
      resolve top path = r.mapError Problem.failure) ∧
    (∀ l w, ((mapping top).along? l).isSome →
      (∀ a, trailOf? top path = some a → ¬ l <+: a ∧ ¬ a <+: l) →
      resolveIn (withAlong w l (mapping top)) (.text path) = resolve top path) ∧
    ∀ k w, (∀ s ss, parse path = .ok (s :: ss) → k ≠ .text s.key) →
      resolve (Table.put top k w) path = resolve top path ∧
        resolve (Table.erase top k) path = resolve top path := by
  refine ⟨fun a ha => ?_, fun l w => resolve_withAlong top path l w, fun k w hk => ?_⟩
  · obtain ⟨ss, hp, rfl⟩ := exists_parse_of_trailOf? top path a ha
    exact ⟨walk path top ss, leadsTo_trail path top ss, resolve_of_parse top path ss hp⟩
  · have hne : ∀ s ss, parse path = .ok (s :: ss) → (k == .text s.key) = false := by
      intro s ss hp
      rw [← Bool.not_eq_true, Scalar.beq_text_iff]
      exact hk s ss hp
    exact ⟨resolve_congr _ _ path fun s ss hp => Table.get?_put_of_ne top k _ w (hne s ss hp),
      resolve_congr _ _ path fun s ss hp => Table.get?_erase_of_ne top k _ (hne s ss hp)⟩

theorem resolve_reads_trail_rows :
    let rows := [(.text "a", list [null, .fields [("b", .int 2)]]), (.text "z", null)]
    let place := [Hop.key (.text "a"), .item 0]
    trailOf? rows "a#1.b" = some [.key (.text "a"), .item 1, .key (.text "b")] ∧
      resolve rows "a#1.b" = .ok (.int 2) ∧
      resolveIn (withAlong (.text "x") place (mapping rows)) (.text "a#1.b") =
        resolve rows "a#1.b" ∧
      resolve (Table.erase rows (.text "z")) "a#1.b" = resolve rows "a#1.b" := by
  intro rows place
  have hp : parse "a#1.b" = .ok [⟨"a", some 1⟩, ⟨"b", none⟩] := by cbv
  have ha : trailOf? rows "a#1.b" = some [.key (.text "a"), .item 1, .key (.text "b")] := by cbv
  obtain ⟨-, helsewhere, htop⟩ := resolve_reads_trail rows "a#1.b"
  refine ⟨ha, by cbv, helsewhere place (.text "x") rfl fun a h => ?_,
    (htop (.text "z") null fun s ss h => ?_).2⟩
  · rw [ha] at h
    obtain rfl := Option.some.inj h
    exact ⟨by decide, by decide⟩
  · rw [hp] at h
    cases h
    decide

end DotPath.Path

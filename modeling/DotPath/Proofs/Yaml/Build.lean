import DotPath.Proofs.Outcome
import DotPath.Proofs.Table

set_option autoImplicit false

/-!
The bodies of collections. Whatever a graph is built into, no key of a mapping comes twice in it.
-/

namespace DotPath.Yaml

open Text

/-- What an action leaves if it succeeds: the invariant of its state, and a property of its
result. -/
def Keeps {σ α : Type} {m : Type → Type} [Monad m] (I : σ → Prop) (Q : α → Prop)
    (x : StateT σ m α) : Prop :=
  ∀ s, I s → SatisfiesM (fun r => I r.2 ∧ Q r.1) (x.run s)

section Keeps

variable {σ α β : Type} {m : Type → Type} [Monad m] [LawfulMonad m] {I : σ → Prop} {Q : α → Prop}
  {R : β → Prop}

theorem Keeps.get : Keeps I I (get : StateT σ m σ) := fun _ hs => SatisfiesM.pure ⟨hs, hs⟩

theorem Keeps.modify (f : σ → σ) (h : ∀ s, I s → I (f s)) :
    Keeps I (fun _ => True) (modify f : StateT σ m Unit) := fun s hs =>
  SatisfiesM.pure ⟨h s hs, trivial⟩

theorem Keeps.pure (a : α) (h : Q a) : Keeps I Q (Pure.pure a : StateT σ m α) := fun _ hs =>
  SatisfiesM.pure ⟨hs, h⟩

theorem Keeps.bind (x : StateT σ m α) (f : α → StateT σ m β) (hx : Keeps I Q x)
    (hf : ∀ a, Q a → Keeps I R (f a)) : Keeps I R (x >>= f) := by
  intro s hs
  rw [StateT.run_bind]
  exact SatisfiesM.bind (hx s hs) fun r hr => hf r.1 hr.2 r.2 hr.1

theorem Keeps.map (x : StateT σ m α) (f : α → β) (hx : Keeps I Q x) (hf : ∀ a, Q a → R (f a)) :
    Keeps I R (f <$> x) := by
  rw [← bind_pure_comp]
  exact .bind x _ hx fun a ha => .pure _ (hf a ha)

/-- The results of a list come one for each element, with what is known of it. -/
theorem Keeps.mapM (S : α → β → Prop) (f : α → StateT σ m β) (xs : List α)
    (hf : ∀ a ∈ xs, Keeps I (S a) (f a)) : Keeps I (List.Forall₂ S xs) (xs.mapM f) := by
  induction xs with
  | nil => exact .pure [] .nil
  | cons a xs ih =>
    obtain ⟨ha, hxs⟩ := List.forall_mem_cons.1 hf
    rw [List.mapM_cons]
    exact .bind _ _ ha fun b hb => .bind _ _ (ih hxs) fun bs hbs => .pure _ (.cons hb hbs)

theorem Keeps.throw {ε : Type} (e : ε) : Keeps I Q (throw e : StateT σ (Except ε) α) := fun _ _ =>
  SatisfiesM_Except_eq.2 nofun

theorem Keeps.lift {ε : Type} (x : Except ε α) :
    Keeps I (fun _ => True) (liftM x : StateT σ (Except ε) α) := by
  intro s hs
  refine SatisfiesM_Except_eq.2 fun r hr => ?_
  cases x with
  | error e => cases hr
  | ok a =>
    cases hr
    exact ⟨hs, trivial⟩

end Keeps

section Slots

variable {α : Type} (P : α → Prop)

/-- All that is in an array of slots has a property. -/
def Holding (slots : Array (Option α)) : Prop :=
  ∀ (i : Nat) (a : α), slots[i]? = some (some a) → P a

theorem holding_replicate (n : Nat) : Holding P (Array.replicate n none) := by
  intro i a h
  simp [Array.getElem?_replicate] at h

theorem Holding.set (slots : Array (Option α)) (h : Holding P slots) (i : Nat) (a : α) (ha : P a) :
    Holding P (slots.setIfInBounds i (some a)) := by
  intro j b hb
  rw [Array.getElem?_setIfInBounds] at hb
  split at hb
  next =>
    split at hb
    · obtain rfl := Option.some.inj (Option.some.inj hb)
      exact ha
    · cases hb
  next => exact h j b hb

end Slots

/-- No key comes twice in a body that is a mapping. -/
def Body.Proper : Body → Prop
  | .mapping entries => Table.Distinct entries
  | _ => True

namespace Build

/-- Everything but the end of the building leaves the bodies as they are. -/
def Proper (b : Building) : Prop := Holding Body.Proper b.bodies

variable [Host]

/-- A scalar is read without a change of what has been built. -/
theorem keeps_scalarOf {I : Building → Prop} (id : NodeId) (node : Node) :
    Keeps I (fun _ => True) (scalarOf id node) := by
  unfold scalarOf
  by_cases hreadable : (!node.tag.isReadable) = true
  · rw [if_pos hreadable]
    refine .bind _ _ (.throw (Q := fun _ => True) _) fun _ _ => .bind _ _ .get fun b _ =>
      .bind _ _ (.lift _) fun text _ => ?_
    split
    · exact .throw _
    · exact .lift _
  · rw [if_neg hreadable]
    refine .bind _ _ .get fun b _ => .bind _ _ (.lift _) fun text _ => ?_
    split
    · exact .throw _
    · exact .lift _

theorem keeps_partOf (id : NodeId) : Keeps Proper (fun _ => True) (partOf id) := by
  refine .bind _ _ .get fun b _ => ?_
  split
  · exact .pure _ trivial
  · exact .throw _
  next node _ _ =>
    split
    · exact .bind _ _ (.modify _ fun _ h => h) fun _ _ =>
        .bind _ _ (.modify _ fun _ h => h) fun _ _ => .pure _ trivial
    · exact .bind _ _ (keeps_scalarOf id node) fun _ _ =>
        .bind _ _ (.modify _ fun _ h => h) fun _ _ => .pure _ trivial

theorem keeps_keyOf (id : NodeId) : Keeps Proper (fun _ => True) (keyOf id) := by
  refine .bind _ _ (keeps_partOf id) fun part _ => ?_
  cases part with
  | scalar s => exact .pure _ trivial
  | object id => exact .throw _

theorem keeps_entriesOf (id : NodeId) : Keeps Proper Table.Distinct (entriesOf id) := by
  refine .bind _ _ .get fun b _ => ?_
  split
  · refine .bind _ _ .get fun b _ => .bind _ _ (.lift _) fun r _ => ?_
    refine .bind _ _ (.modify _ fun _ h => h) fun _ _ => ?_
    refine .bind _ _ (.mapM (fun _ _ => True) _ _ fun e _ => ?_) fun entries _ =>
      .pure _ (Table.distinct_ofEntries entries)
    exact .bind _ _ (keeps_keyOf _) fun key _ => .bind _ _ (keeps_partOf _) fun part _ =>
      .pure _ trivial
  · exact .throw _

theorem keeps_pairOf (id : NodeId) : Keeps Proper (fun _ => True) (pairOf id) := by
  refine .bind _ _ .get fun b _ => ?_
  split
  · exact .bind _ _ (keeps_partOf _) fun key _ => .bind _ _ (keeps_partOf _) fun part _ =>
      .pure _ trivial
  · exact .throw _

theorem keeps_bodyOf (id : NodeId) : Keeps Proper Body.Proper (bodyOf id) := by
  refine .bind _ _ .get fun b _ => ?_
  split
  · exact .map _ _ (keeps_entriesOf id) fun _ h => h
  · exact .map _ _ (keeps_entriesOf id) fun _ _ => trivial
  · exact .map _ _ (.mapM (fun _ _ => True) _ _ fun id _ => keeps_partOf id) fun _ _ => trivial
  · exact .map _ _ (.mapM (fun _ _ => True) _ _ fun id _ => keeps_pairOf id) fun _ _ => trivial
  · exact .map _ _ (.mapM (fun _ _ => True) _ _ fun id _ => keeps_pairOf id) fun _ _ => trivial
  · exact .throw _

theorem keeps_finishFrom (n i : Nat) : Keeps Proper (fun _ => True) (finishFrom n i) := by
  induction n generalizing i with
  | zero => exact .pure _ trivial
  | succ n ih =>
    refine .bind _ _ .get fun b _ => ?_
    split
    · exact .pure _ trivial
    next id _ =>
      refine .bind _ _ (keeps_bodyOf id) fun body hbody => ?_
      exact .bind _ _ (.modify _ fun b hb => hb.set _ _ id body hbody) fun _ _ => ih (i + 1)

theorem keeps_whole (id : NodeId) : Keeps Proper (fun _ => True) (whole id) :=
  .bind _ _ (keeps_partOf id) fun _ _ => .bind _ _ .get fun _ _ =>
    .bind _ _ (keeps_finishFrom _ 0) fun _ _ => .pure _ trivial

end Build

/-- In what a graph is built into, no key of a mapping comes twice. -/
theorem proper_of_build [Host] (g : Graph) (root : NodeId) (part : Part)
    (bodies : Array (Option Body)) (h : g.build root = .ok (part, bodies)) :
    Holding Body.Proper bodies := by
  obtain ⟨⟨part, b⟩, hrun, hb⟩ := (bind_eq_ok_iff _ _ _).1 h
  cases hb
  have hstart : Build.Proper ⟨g, Array.replicate g.size none, #[], Array.replicate g.size none⟩ :=
    holding_replicate Body.Proper g.size
  exact (SatisfiesM_Except_eq.1 (Build.keeps_whole root _ hstart) _ hrun).1

end DotPath.Yaml

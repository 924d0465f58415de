import DotPath.Proofs.Json.Members
import DotPath.Proofs.Value.Merges

set_option autoImplicit false

/-!
JSON as it was written, with members whose keys come again. What a text is read as comes of it by
merging these members, in every object at any depth.
-/

namespace DotPath.Json

open Text

/-- A value as it stands in the text: an object has all of its members. -/
def readWritten : Nat → Reader Value
  | depth + 1, .char '[' :: rest => readArray (readWritten depth) rest
  | depth + 1, .char '\x7b' :: rest =>
    (fun r => (.mapping r.1, r.2)) <$> readAllMembers (readWritten depth) rest
  | depth, ps => readValue depth ps

def written [Host] (text : List CodePoint) : Except Stop Value := do
  let (v, rest) ← readWritten Host.readingDepth (skipBlank text)
  match skipBlank rest with
  | [] => pure v
  | rest => throw (.fault .extraData rest)

/-- What one reading gives, the other gives too in a related form, and with the same rest. -/
def Mirrors {α β : Type} (R : α → β → Prop) (x : Except Stop (α × List CodePoint))
    (y : Except Stop (β × List CodePoint)) : Prop :=
  ∀ b rest, y = .ok (b, rest) → ∃ a, x = .ok (a, rest) ∧ R a b

namespace Mirrors

variable {α β α' β' : Type} {R : α → β → Prop} {S : α' → β' → Prop}

theorem done (a : α) (b : β) (rest : List CodePoint) (h : R a b) :
    Mirrors R (.ok (a, rest)) (.ok (b, rest)) := by
  intro b' rest' hb
  obtain ⟨rfl, rfl⟩ := Prod.mk.inj (Except.ok.inj hb)
  exact ⟨a, rfl, h⟩

theorem bind (x : Except Stop (α × List CodePoint)) (y : Except Stop (β × List CodePoint))
    (f : α × List CodePoint → Except Stop (α' × List CodePoint))
    (g : β × List CodePoint → Except Stop (β' × List CodePoint)) (h : Mirrors R x y)
    (hf : ∀ a b rest, R a b → Mirrors S (f (a, rest)) (g (b, rest))) :
    Mirrors S (x >>= f) (y >>= g) := by
  intro b' rest' hb'
  obtain ⟨⟨b, rest⟩, hb, hg⟩ := (bind_eq_ok_iff _ _ _).1 hb'
  obtain ⟨a, rfl, hab⟩ := h b rest hb
  exact hf a b rest hab b' rest' hg

theorem fault (x : Except Stop (α × List CodePoint)) (stop : Stop) :
    Mirrors R x (.error stop) := nofun

end Mirrors

section Collections

variable {R : Value → Value → Prop} (element element' : Reader Value)
  (helement : ∀ ps, Mirrors R (element ps) (element' ps))

include helement in
theorem mirrors_readElements (fuel : Nat) (ps : List CodePoint) :
    Mirrors (List.Forall₂ R) (readElements element fuel ps) (readElements element' fuel ps) := by
  induction fuel generalizing ps with
  | zero => exact .fault _ _
  | succ fuel ih =>
    refine .bind _ _ _ _ (helement ps) fun v v' rest hv => ?_
    dsimp only
    split
    · exact .done _ _ _ (.cons hv .nil)
    · exact .bind _ _ _ _ (ih _) fun vs vs' rest hvs => .done _ _ _ (.cons hv hvs)
    · exact .fault _ _

def MembersMirror (R : Value → Value → Prop) (ms ms' : List (Scalar × Value)) : Prop :=
  Table.keys ms = Table.keys ms' ∧ List.Forall₂ (fun m m' => R m.2 m'.2) ms ms'

theorem MembersMirror.cons (key : Scalar) (v v' : Value) (ms ms' : List (Scalar × Value))
    (hv : R v v') (hms : MembersMirror R ms ms') :
    MembersMirror R ((key, v) :: ms) ((key, v') :: ms') :=
  ⟨congrArg (key :: ·) hms.1, .cons hv hms.2⟩

include helement in
theorem mirrors_readMembers (fuel : Nat) (ps : List CodePoint) :
    Mirrors (MembersMirror R) (readMembers element fuel ps) (readMembers element' fuel ps) := by
  induction fuel generalizing ps with
  | zero => exact .fault _ _
  | succ fuel ih =>
    unfold readMembers
    split
    next h => cases h
    next fuel' quoted hfuel =>
      obtain rfl : fuel' = fuel := by omega
      refine .bind (R := Eq) _ _ _ _ (fun key rest hkey => ⟨key, hkey, rfl⟩) fun key _ rest h => ?_
      subst h
      dsimp only
      split
      next after _ =>
        refine .bind _ _ _ _ (helement (skipBlank after)) fun v v' rest hv => ?_
        dsimp only
        split
        · exact .done _ _ _ (.cons key v v' [] [] hv ⟨rfl, .nil⟩)
        · exact .bind _ _ _ _ (ih _) fun ms ms' rest hms =>
            .done _ _ _ (.cons key v v' ms ms' hv hms)
        · exact .fault _ _
      next => exact .fault _ _
    next => exact .fault _ _

include helement in
theorem mirrors_readAllMembers (ps : List CodePoint) :
    Mirrors (MembersMirror R) (readAllMembers element ps) (readAllMembers element' ps) := by
  unfold readAllMembers
  split
  · exact .done _ _ _ ⟨rfl, .nil⟩
  · exact mirrors_readMembers element element' helement _ _

include helement in
theorem mirrors_readArray (ps : List CodePoint) :
    Mirrors (fun w v => ∃ vs vs', w = .list vs ∧ v = .list vs' ∧ List.Forall₂ R vs vs')
      (readArray element ps) (readArray element' ps) := by
  unfold readArray
  split
  · exact .done _ _ _ ⟨[], [], rfl, rfl, .nil⟩
  · exact .bind _ _ _ _ (mirrors_readElements element element' helement _ _)
      fun vs vs' rest hvs => .done _ _ _ ⟨vs, vs', rfl, rfl, hvs⟩

end Collections

/-- The value comes of what was written by merging, and its keys are distinct. -/
def Reads (w v : Value) : Prop := w.Merges id v ∧ v.Keyed

theorem reads_scalar (s : Scalar) : Reads (.scalar s) (.scalar s) :=
  ⟨.leaf _ nofun nofun, .scalar s⟩

theorem reads_list (vs vs' : List Value) (h : List.Forall₂ Reads vs vs') :
    Reads (.list vs) (.list vs') :=
  ⟨.list vs vs' (h.imp fun _ _ h => h.1),
    .list vs' (forall_of_forall₂ (h.imp fun _ _ h => h.2))⟩

theorem reads_mapping (ms ms' : List (Scalar × Value)) (h : MembersMirror Reads ms ms') :
    Reads (.mapping ms) (.mapping (Table.ofEntries ms')) := by
  obtain ⟨hkeys, hvalues⟩ := h
  constructor
  · refine .mapping ms ms' _ ?_ (hvalues.imp fun _ _ h => h.1) (Table.merged_ofEntries ms')
    rw [List.map_id, hkeys]
  · have hkeyed := forall_of_forall₂ (S := fun e => e.2.Keyed)
      (hvalues.imp fun _ _ h => h.2)
    exact .mapping _ (Table.distinct_ofEntries ms')
      (Table.forall_values_ofEntries Value.Keyed ms' hkeyed)

theorem readWritten_of_scalar (n : Nat) (ps rest : List CodePoint) (s : Scalar)
    (h : readValue n ps = .ok (.scalar s, rest)) : readWritten n ps = .ok (.scalar s, rest) := by
  -- The two readers part at brackets and braces alone, where no scalar is read.
  unfold readWritten
  split
  next depth body =>
    obtain ⟨items, hitems⟩ := exists_items_of_readArray (readValue depth) body rest _ h
    cases hitems
  next depth body =>
    change readObject (readValue depth) body = _ at h
    rw [readObject_eq] at h
    obtain ⟨r, -, hr⟩ := (map_eq_ok_iff _ _ _).1 h
    cases hr
  next => exact h

theorem mirrors_readValue (n : Nat) (ps : List CodePoint) :
    Mirrors Reads (readWritten n ps) (readValue n ps) := by
  induction n generalizing ps with
  | zero =>
    intro v rest h
    obtain ⟨_, _, hdepth, _⟩ | ⟨_, _, hdepth, _⟩ | ⟨s, rfl, _⟩ := readValue_cases 0 ps rest v h
    · cases hdepth
    · cases hdepth
    · exact ⟨.scalar s, readWritten_of_scalar 0 ps rest s h, reads_scalar s⟩
  | succ n ih =>
    intro v rest h
    obtain ⟨depth, body, hdepth, rfl, hobject⟩ | ⟨depth, body, hdepth, rfl, harray⟩ | ⟨s, rfl, _⟩ :=
      readValue_cases (n + 1) ps rest v h
    · obtain rfl : n = depth := by omega
      rw [readObject_eq] at hobject
      obtain ⟨⟨ms', after⟩, hms', hv⟩ := (map_eq_ok_iff _ _ _).1 hobject
      obtain ⟨rfl, rfl⟩ := Prod.mk.inj hv
      obtain ⟨ms, hms, hmirror⟩ := mirrors_readAllMembers _ _ ih body ms' after hms'
      exact ⟨.mapping ms, by rw [readWritten, hms]; rfl, reads_mapping ms ms' hmirror⟩
    · obtain rfl : n = depth := by omega
      obtain ⟨w, hw, vs, vs', rfl, rfl, hvs⟩ := mirrors_readArray _ _ ih body v rest harray
      exact ⟨.list vs, hw, reads_list vs vs' hvs⟩
    · exact ⟨.scalar s, readWritten_of_scalar (n + 1) ps rest s h, reads_scalar s⟩

theorem exists_written_of_read [Host] (text : List CodePoint) (v : Value) (h : read text = .ok v) :
    ∃ w, written text = .ok w ∧ Reads w v := by
  obtain ⟨⟨v', rest⟩, hread, hend⟩ := (bind_eq_ok_iff _ _ _).1 h
  obtain ⟨w, hw, hreads⟩ := mirrors_readValue Host.readingDepth _ v' rest hread
  dsimp only at hend
  split at hend
  next hnothing =>
    obtain rfl := Except.ok.inj hend
    refine ⟨w, ?_, hreads⟩
    rw [written, hw]
    change (match skipBlank rest with
      | [] => pure w
      | rest => throw (Stop.fault .extraData rest)) = _
    rw [hnothing]
    rfl
  next => cases hend

end DotPath.Json

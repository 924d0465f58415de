import DotPath.Proofs.Store.Gate
import DotPath.Proofs.Store.Memory
import DotPath.Settings.Session

set_option autoImplicit false

/-!
Settings have two views of the mapping that they are made of. Values are read in a copy that no
step writes to, while the mapping that is given back has the entries of what was passed in as it
has become; but an empty mapping is not shared, and nothing that is done to it is seen.

What is done to a mapping after it was given back makes no difference to what is answered later.
Still it may be put under a key of what was passed in, and is then held by later answers: these tell
the same object as ever, and whoever looks into it sees what was done to it. All else that an answer
reaches is as if nothing had been done. What is passed in at first does not contain itself.
-/

namespace DotPath

open Value (Entries)

namespace Value

theorem assign_mapping (entries : Entries) (key value : Value) :
    (mapping entries).assign key value =
      key.asKey.map fun k => mapping (Table.put entries k value) := by
  change (key.asKey >>= _) = _
  cases key.asKey <;> rfl

end Value

namespace Settings

namespace Step

/-- The entry that a step puts into what was passed in. -/
def assignment? : Step → Option (Scalar × Value)
  | sourceSet key value => key.asKey.toOption.map (·, value)
  | _ => none

/-- The step without what it does to a mapping that was given back, if anything is left of it. -/
def sparing : Step → Option Step
  | copySet _ _ => some toMapping
  | givenSet _ _ _ => none
  | step => some step

/-- What was passed in, after a step; an assignment that fails leaves it as it is. -/
def apply (step : Step) (source : Source) : Source :=
  match step with
  | sourceSet key value => (source.assign key value).toOption.getD source
  | _ => source

end Step

/-- What was passed in, after the steps of a run. -/
def sourceAfter (source : Source) (steps : List Step) : Source :=
  steps.foldl (fun current step => step.apply current) source

theorem apply_sparing (source : Source) (step : Step) :
    sourceAfter source step.sparing.toList = step.apply source := by
  cases step <;> rfl

/-- What is done to mappings that were given back does not reach what was passed in. -/
theorem sourceAfter_sparing (source : Source) (steps : List Step) :
    sourceAfter source (steps.filterMap Step.sparing) = sourceAfter source steps := by
  unfold sourceAfter
  induction steps generalizing source with
  | nil => rfl
  | cons step steps ih => cases step <;> exact ih _

namespace Session

variable (s : Session)

/-- The settings when what was passed in has become `source`. -/
def now (source : Source) : Settings :=
  if s.isShared then { s.settings with source := source.content } else s.settings

/-- The answer to a step that does not concern a mapping given back before. -/
def fresh (source : Source) : Step → Except Failure Value
  | .get path default => s.settings.get path default
  | .toMapping => ((s.now source).toMapping.mapError .crash).map .mapping
  | .sourceSet key value => ((source.assign key value).mapError .crash).map fun _ => .null
  | .copySet key value =>
    ((s.now source).toMapping >>= fun m => (Value.mapping m).assign key value).mapError .crash
  | .givenSet _ _ _ => .ok .null

theorem store_now (source : Source) : (s.now source).store = s.settings.store := by
  unfold now
  split <;> rfl

theorem get_now (source : Source) (path default : Value) :
    (s.now source).get path default = s.settings.get path default := by
  rw [Settings.get, Settings.get, s.store_now source]

end Session

namespace Objects

/-- The places of the objects that settings are read from, or changed by others. -/
def places (o : Objects) : List Nat := [o.source, o.held, o.copy]

/-- The objects of a session in which what was passed in has become `source`. -/
structure Stands (o : Objects) (s : Session) (source : Source) : Prop where
  there : ∀ place ∈ o.places, place < o.memory.objects.length
  copy_ne : o.source ≠ o.copy
  held_eq : o.held = o.source ↔ s.isShared
  given_apart : ∀ place ∈ o.given, place ∉ o.places
  read_source : o.memory.read o.source = source
  read_held : (o.memory.read o.held).content = (s.now source).source
  read_copy : o.memory.read o.copy = .value (.mapping s.settings.store.entries)

variable {o : Objects} {s : Session} {source : Source}

theorem Stands.settings_eq (h : o.Stands s source) : o.settings = s.now source := by
  have hread := h.read_held
  rw [settings, h.read_copy, hread, ← s.store_now source]
  rfl

/-- A memory in which the places read as before does as well. -/
theorem Stands.of_reads (h : o.Stands s source) (memory : Memory) (given : List Nat)
    (hlength : o.memory.objects.length ≤ memory.objects.length)
    (hreads : ∀ place ∈ o.places, memory.read place = o.memory.read place)
    (hgiven : ∀ place ∈ given, place ∉ o.places) :
    Stands { o with memory, given } s source where
  there place hplace := Nat.lt_of_lt_of_le (h.there place hplace) hlength
  copy_ne := h.copy_ne
  held_eq := h.held_eq
  given_apart := hgiven
  read_source := (hreads o.source (by simp [places])).trans h.read_source
  read_held := (congrArg Source.content (hreads o.held (by simp [places]))).trans h.read_held
  read_copy := (hreads o.copy (by simp [places])).trans h.read_copy

theorem set_of_error (place : Nat) (key value : Value) (c : Crash)
    (h : (o.memory.read place).assign key value = .error c) :
    o.set place key value = (.error (.crash c), o) := by
  rw [set, h]

theorem set_of_ok (place : Nat) (key value : Value) (object : Source)
    (h : (o.memory.read place).assign key value = .ok object) :
    o.set place key value = (.ok .null, { o with memory := o.memory.write place object }) := by
  rw [set, h]

theorem showing_of_read (place : Nat) (v w : Value) (h : o.memory.read place = .value w) :
    showing place (.ok v, o) = (.ok w, o) := by
  rw [showing, h]
  rfl

theorem showing_snd (place : Nat) (r : Except Failure Value × Objects) :
    (showing place r).2 = r.2 := by
  obtain ⟨result, o⟩ := r
  cases result <;> rfl

/-- The objects with a new mapping that was given back. -/
def withGiven (o : Objects) (entries : Entries) : Objects :=
  { o with
    memory := (o.memory.add (.value (.mapping entries))).2
    given := o.given ++ [o.memory.objects.length] }

theorem read_withGiven (entries : Entries) :
    (o.withGiven entries).memory.read o.memory.objects.length = .value (.mapping entries) :=
  Memory.read_add_self _ _

theorem length_withGiven (entries : Entries) :
    (o.withGiven entries).memory.objects.length = o.memory.objects.length + 1 :=
  Memory.length_add _ _

theorem mem_given_withGiven (entries : Entries) :
    o.memory.objects.length ∈ (o.withGiven entries).given := by
  simp [withGiven]

/-- Giving a mapping back adds an object to the memory, if what is held is a mapping. -/
theorem Stands.give_cases (h : o.Stands s source) :
    (∃ c, (s.now source).toMapping = .error c ∧ o.give = (.error (.crash c), o)) ∨
      ∃ entries, (s.now source).toMapping = .ok entries ∧
        o.give = (.ok o.memory.objects.length, o.withGiven entries) := by
  unfold Objects.give
  rw [h.settings_eq]
  cases (s.now source).toMapping with
  | error c => exact .inl ⟨c, rfl, rfl⟩
  | ok entries => exact .inr ⟨entries, rfl, rfl⟩

theorem Stands.withGiven (h : o.Stands s source) (entries : Entries) :
    (o.withGiven entries).Stands s source := by
  refine h.of_reads _ _ (by simp) (fun place hplace => ?_) fun place hplace => ?_
  · exact Memory.read_add_of_ne _ _ _ (Nat.ne_of_lt (h.there place hplace))
  · obtain hplace | hplace := List.mem_append.1 hplace
    · exact h.given_apart place hplace
    · -- The place of a new object lies behind all others.
      obtain rfl := List.mem_singleton.1 hplace
      exact fun hmem => Nat.lt_irrefl _ (h.there _ hmem)

/-- A mapping that was given back is changed apart from all that settings are read from. -/
theorem Stands.set_given (h : o.Stands s source) (place : Nat) (hplace : place ∈ o.given)
    (key value : Value) : (o.set place key value).2.Stands s source := by
  cases hassign : (o.memory.read place).assign key value with
  | error c =>
    rw [set_of_error place key value c hassign]
    exact h
  | ok object =>
    rw [set_of_ok place key value object hassign]
    refine h.of_reads _ _ (by simp) (fun other hother => ?_) h.given_apart
    exact Memory.read_write_of_ne _ _ _ fun heq => h.given_apart place hplace (heq ▸ hother)

theorem Stands.set_source (h : o.Stands s source) (key value : Value) :
    (o.set o.source key value).1 =
        ((source.assign key value).mapError Failure.crash).map (fun _ => .null) ∧
      (o.set o.source key value).2.Stands s ((Step.sourceSet key value).apply source) := by
  rw [Step.apply]
  cases hassign : source.assign key value with
  | error c =>
    rw [set_of_error o.source key value c (h.read_source ▸ hassign)]
    exact ⟨rfl, h⟩
  | ok changed =>
    rw [set_of_ok o.source key value changed (h.read_source ▸ hassign)]
    have hlt : o.source < o.memory.objects.length := h.there _ (by simp [places])
    refine ⟨rfl, fun place hplace => ?_, h.copy_ne, h.held_eq, h.given_apart,
      Memory.read_write_self _ _ _ hlt, ?_,
      (Memory.read_write_of_ne _ _ _ h.copy_ne).trans h.read_copy⟩
    · simpa using h.there place hplace
    · have hread := h.read_held
      change ((o.memory.write o.source changed).read o.held).content = (s.now changed).source
      unfold Session.now at hread ⊢
      split
      next hshared => rw [h.held_eq.2 hshared, Memory.read_write_self _ _ _ hlt]
      next hshared =>
        rw [if_neg hshared] at hread
        rw [Memory.read_write_of_ne _ _ _ fun heq => hshared (h.held_eq.1 heq.symm)]
        exact hread

theorem Stands.toMapping (h : o.Stands s source) :
    (o.answer .toMapping).1 = s.fresh source .toMapping ∧
      (o.answer .toMapping).2.Stands s source := by
  rw [Objects.answer, Session.fresh]
  obtain ⟨c, hmapping, hgive⟩ | ⟨entries, hmapping, hgive⟩ := h.give_cases
  · rw [hgive, hmapping]
    exact ⟨rfl, h⟩
  · rw [hgive, hmapping]
    dsimp only
    rw [showing_of_read _ .null _ (read_withGiven entries)]
    exact ⟨rfl, h.withGiven entries⟩

theorem Stands.copySet (h : o.Stands s source) (key value : Value) :
    (o.answer (.copySet key value)).1 = s.fresh source (.copySet key value) ∧
      (o.answer (.copySet key value)).2.Stands s source := by
  rw [Objects.answer, Session.fresh]
  obtain ⟨c, hmapping, hgive⟩ | ⟨entries, hmapping, hgive⟩ := h.give_cases
  · rw [hgive, hmapping]
    exact ⟨rfl, h⟩
  · have hset := (h.withGiven entries).set_given _ (mem_given_withGiven entries) key value
    have hobject : ((o.withGiven entries).memory.read o.memory.objects.length).assign key value =
        Source.value <$> (Value.mapping entries).assign key value := by
      rw [read_withGiven]
      rfl
    rw [hgive, hmapping]
    dsimp only
    rw [showing_snd]
    refine ⟨?_, hset⟩
    change _ = ((Value.mapping entries).assign key value).mapError Failure.crash
    cases hassign : (Value.mapping entries).assign key value with
    | error c =>
      rw [hassign] at hobject
      rw [set_of_error _ key value c hobject]
      rfl
    | ok changed =>
      rw [hassign] at hobject
      rw [set_of_ok _ key value _ hobject]
      have hlt : o.memory.objects.length < (o.withGiven entries).memory.objects.length := by
        rw [length_withGiven]
        omega
      exact congrArg Prod.fst
        (showing_of_read _ .null changed (Memory.read_write_self _ _ _ hlt))

/-- A step is answered as by settings that share no object with what was given back before. -/
theorem Stands.answer (h : o.Stands s source) (step : Step) :
    ((∀ number key value, step ≠ .givenSet number key value) →
        (o.answer step).1 = s.fresh source step) ∧
      (o.answer step).2.Stands s (step.apply source) := by
  cases step with
  | get path default =>
    refine ⟨fun _ => ?_, h⟩
    change o.settings.get path default = _
    rw [h.settings_eq, s.get_now source]
    rfl
  | toMapping => exact ⟨fun _ => h.toMapping.1, h.toMapping.2⟩
  | sourceSet key value => exact ⟨fun _ => (h.set_source key value).1, (h.set_source key value).2⟩
  | copySet key value => exact ⟨fun _ => (h.copySet key value).1, (h.copySet key value).2⟩
  | givenSet number key value =>
    refine ⟨fun hno => absurd rfl (hno number key value), ?_⟩
    rw [Objects.answer]
    cases hplace : o.given[number]? with
    | none => exact h
    | some place => exact h.set_given place (List.mem_of_getElem? hplace) key value

/-- Objects stand after a run as they did before it. -/
theorem Stands.after (h : o.Stands s source) (steps : List Step) :
    (o.after steps).Stands s (sourceAfter source steps) := by
  unfold Objects.after sourceAfter
  induction steps generalizing o source with
  | nil => exact h
  | cons step steps ih => exact ih (h.answer step).2

theorem length_answers (o : Objects) (steps : List Step) :
    (o.answers steps).length = steps.length := by
  induction steps generalizing o with
  | nil => rfl
  | cons step steps ih => exact congrArg (· + 1) (ih _)

theorem Stands.answers (h : o.Stands s source) (steps : List Step) (i : Nat) (step : Step)
    (hstep : steps[i]? = some step) (hno : ∀ number key value, step ≠ .givenSet number key value) :
    (o.answers steps)[i]? = some (s.fresh (sourceAfter source (steps.take i)) step) := by
  -- Each step hands on objects that stand as before, with what was passed in as it has become.
  induction steps generalizing o source i with
  | nil => simp at hstep
  | cons first steps ih =>
    obtain ⟨hfirst, hrest⟩ := h.answer first
    cases i with
    | zero =>
      obtain rfl : first = step := by simpa using hstep
      exact congrArg some (hfirst hno)
    | succ i => exact ih hrest i hstep

/-! ### Mappings that are spared -/

/-- The places of the mappings given back that a step does something to. -/
def changedBy (o : Objects) : Step → List Nat
  | .copySet _ _ => [o.memory.objects.length]
  | .givenSet number _ _ => o.given[number]?.toList
  | _ => []

/-- The places of the mappings given back that the steps of a run do something to. -/
def changed (o : Objects) : List Step → List Nat
  | [] => []
  | step :: steps => o.changedBy step ++ (o.answer step).2.changed steps

/-- Objects that differ at most in what stands in the given places. -/
structure Alike (o o' : Objects) (places : List Nat) : Prop where
  source : o'.source = o.source
  held : o'.held = o.held
  copy : o'.copy = o.copy
  given : o'.given = o.given
  length : o'.memory.objects.length = o.memory.objects.length
  read : ∀ place ∉ places, o'.memory.read place = o.memory.read place

theorem alike_self (o : Objects) : o.Alike o [] := ⟨rfl, rfl, rfl, rfl, rfl, fun _ _ => rfl⟩

variable {o' : Objects} {places : List Nat}

theorem Alike.append (h : o.Alike o' places) (more : List Nat) : o.Alike o' (places ++ more) :=
  { h with read := fun place hplace => h.read place fun hmem => hplace (by simp [hmem]) }

theorem Alike.withGiven (h : o.Alike o' places) (entries : Entries) :
    (o.withGiven entries).Alike (o'.withGiven entries) places where
  source := h.source
  held := h.held
  copy := h.copy
  given := by simp [Objects.withGiven, h.given, h.length]
  length := by rw [length_withGiven, length_withGiven, h.length]
  read place hplace := by
    by_cases hlast : place = o.memory.objects.length
    · rw [hlast, read_withGiven, ← h.length, read_withGiven]
    · exact (Memory.read_add_of_ne _ _ _ (h.length ▸ hlast)).trans
        ((h.read place hplace).trans (Memory.read_add_of_ne _ _ _ hlast).symm)

/-- The same is done to the same object. -/
theorem Alike.set (h : o.Alike o' places) (place : Nat) (key value : Value)
    (hlt : place < o.memory.objects.length)
    (hread : o'.memory.read place = o.memory.read place) :
    (o.set place key value).2.Alike (o'.set place key value).2 places := by
  cases hassign : (o.memory.read place).assign key value with
  | error c =>
    rw [set_of_error place key value c hassign,
      set_of_error place key value c ((congrArg (·.assign key value) hread).trans hassign)]
    exact h
  | ok object =>
    rw [set_of_ok place key value object hassign,
      set_of_ok place key value object ((congrArg (·.assign key value) hread).trans hassign)]
    refine ⟨h.source, h.held, h.copy, h.given, by simp [h.length], fun other hother => ?_⟩
    by_cases hsame : place = other
    · subst hsame
      exact (Memory.read_write_self _ _ _ (h.length ▸ hlt)).trans
        (Memory.read_write_self _ _ _ hlt).symm
    · exact (Memory.read_write_of_ne _ _ _ hsame).trans
        ((h.read other hother).trans (Memory.read_write_of_ne _ _ _ hsame).symm)

/-- Something is done to an object in one of the places, on one side alone. -/
theorem Alike.set_left (h : o.Alike o' places) (place : Nat) (hplace : place ∈ places)
    (key value : Value) : (o.set place key value).2.Alike o' places := by
  cases hassign : (o.memory.read place).assign key value with
  | error c =>
    rw [set_of_error place key value c hassign]
    exact h
  | ok object =>
    rw [set_of_ok place key value object hassign]
    refine ⟨h.source, h.held, h.copy, h.given, by simp [h.length], fun other hother => ?_⟩
    have hne : place ≠ other := fun heq => hother (heq ▸ hplace)
    exact (h.read other hother).trans (Memory.read_write_of_ne _ _ _ hne).symm

section TwoRuns

variable (h : o.Alike o' places) (hs : o.Stands s source) (hs' : o'.Stands s source)

include h hs hs'

/-- Both sides give the same mapping back, or none. -/
theorem Alike.give_cases :
    (∃ f, o.give = (.error f, o) ∧ o'.give = (.error f, o')) ∨
      ∃ entries, o.give = (.ok o.memory.objects.length, o.withGiven entries) ∧
        o'.give = (.ok o.memory.objects.length, o'.withGiven entries) := by
  obtain ⟨c, hmapping, hgive⟩ | ⟨entries, hmapping, hgive⟩ := hs.give_cases <;>
    obtain ⟨c', hmapping', hgive'⟩ | ⟨entries', hmapping', hgive'⟩ := hs'.give_cases <;>
    cases hmapping.symm.trans hmapping'
  · exact .inl ⟨_, hgive, hgive'⟩
  · exact .inr ⟨entries, hgive, h.length ▸ hgive'⟩

/-- One step on both sides: all mappings given back before are left alone. -/
theorem Alike.answer (step : Step) (hno : ∀ number key value, step ≠ .givenSet number key value) :
    (o.answer step).2.Alike (o'.answer step).2 places := by
  cases step with
  | get path default => exact h
  | sourceSet key value =>
    have hread : o'.memory.read o.source = o.memory.read o.source := by
      rw [hs.read_source, ← h.source, hs'.read_source]
    have hset := h.set o.source key value (hs.there _ (by simp [Objects.places])) hread
    change (o.set o.source key value).2.Alike (o'.set o'.source key value).2 places
    rwa [h.source]
  | toMapping =>
    rw [Objects.answer, Objects.answer]
    obtain ⟨f, hgive, hgive'⟩ | ⟨entries, hgive, hgive'⟩ := h.give_cases hs hs' <;>
      rw [hgive, hgive']
    · exact h
    · exact h.withGiven entries
  | copySet key value =>
    rw [Objects.answer, Objects.answer]
    obtain ⟨f, hgive, hgive'⟩ | ⟨entries, hgive, hgive'⟩ := h.give_cases hs hs' <;>
      rw [hgive, hgive']
    · exact h
    · have hread' := read_withGiven (o := o') entries
      rw [h.length] at hread'
      dsimp only
      rw [showing_snd, showing_snd]
      exact (h.withGiven entries).set _ key value (by rw [length_withGiven]; omega)
        (hread'.trans (read_withGiven entries).symm)
  | givenSet number key value => exact absurd rfl (hno number key value)

/-- A step on one side, and on the other what spares the mappings given back. -/
theorem Alike.answer_sparing (step : Step) :
    (o.answer step).2.Alike (o'.after step.sparing.toList) (places ++ o.changedBy step) := by
  cases step with
  | get path default => exact h.append []
  | toMapping => exact (h.answer hs hs' .toMapping nofun).append []
  | sourceSet key value => exact (h.answer hs hs' (.sourceSet key value) nofun).append []
  | copySet key value =>
    change (o.answer (.copySet key value)).2.Alike (o'.answer .toMapping).2 _
    rw [Objects.answer, Objects.answer]
    obtain ⟨f, hgive, hgive'⟩ | ⟨entries, hgive, hgive'⟩ := h.give_cases hs hs' <;>
      rw [hgive, hgive']
    · exact h.append _
    · dsimp only
      rw [showing_snd, showing_snd]
      exact ((h.withGiven entries).append _).set_left _ (by simp [changedBy]) key value
  | givenSet number key value =>
    rw [Objects.answer]
    cases hplace : o.given[number]? with
    | none => exact h.append _
    | some place => exact (h.append _).set_left place (by simp [changedBy, hplace]) key value

theorem Alike.after (steps : List Step) :
    (o.after steps).Alike (o'.after (steps.filterMap Step.sparing))
      (places ++ o.changed steps) := by
  -- Both sides stand after each step as before, what was passed in having become the same.
  induction steps generalizing o o' places source with
  | nil => exact h.append []
  | cons step steps ih =>
    have hfirst := h.answer_sparing hs hs' step
    have hstands := hs'.after step.sparing.toList
    rw [apply_sparing] at hstands
    have hrest := ih hfirst (hs.answer step).2 hstands
    have hsteps : (step :: steps).filterMap Step.sparing =
        step.sparing.toList ++ steps.filterMap Step.sparing := by
      cases hstep : step.sparing <;> simp [hstep]
    rw [hsteps, changed, ← List.append_assoc]
    unfold Objects.after at hrest ⊢
    rw [List.foldl_append]
    exact hrest

end TwoRuns

end Objects

namespace Session

variable (s : Session)

theorem stands_objects (h : s.isShared → s.settings.source = s.source.content) :
    s.objects.Stands s s.source := by
  have hread : (s.now s.source).source = s.settings.source := by
    unfold now
    split
    next hshared => exact (h hshared).symm
    next => rfl
  by_cases hshared : s.isShared
  · have hobjects : s.objects =
        ⟨⟨[s.source, .value (.mapping s.settings.store.entries)]⟩, 0, 0, 1, []⟩ := by
      simp [objects, hshared, Memory.empty, Memory.add]
    rw [hobjects]
    exact ⟨by simp [Objects.places], by simp, by simp [hshared], by simp, rfl,
      ((hread.trans (h hshared))).symm, rfl⟩
  · have hobjects : s.objects = ⟨⟨[s.source, .value s.settings.source,
        .value (.mapping s.settings.store.entries)]⟩, 0, 1, 2, []⟩ := by
      simp [objects, hshared, Memory.empty, Memory.add]
    rw [hobjects]
    exact ⟨by simp [Objects.places], by simp, by simp [hshared], by simp, rfl, hread.symm, rfl⟩

variable [Host]

theorem ofSource_eq_ok_iff (source : Source) :
    ofSource source = .ok s ↔ s.source = source ∧ ofValue source.content = .ok s.settings := by
  rw [ofSource, map_eq_ok_iff]
  constructor
  · rintro ⟨settings, hsettings, rfl⟩
    exact ⟨rfl, hsettings⟩
  · rintro ⟨rfl, hsettings⟩
    exact ⟨s.settings, hsettings, rfl⟩

theorem stands_of_ofSource (source : Source) (h : ofSource source = .ok s) :
    s.objects.Stands s source := by
  obtain ⟨rfl, hsettings⟩ := (ofSource_eq_ok_iff s source).1 h
  refine s.stands_objects fun hshared => ?_
  rw [((ofValue_eq_ok_iff _ _).1 hsettings).1, given, if_neg (by simpa [isShared] using hshared)]

theorem run_getElem? (source : Source) (h : ofSource source = .ok s) (steps : List Step) (i : Nat)
    (step : Step) (hstep : steps[i]? = some step)
    (hno : ∀ number key value, step ≠ .givenSet number key value) :
    (s.run steps)[i]? = some (s.fresh (sourceAfter source (steps.take i)) step) :=
  (s.stands_of_ofSource source h).answers steps i step hstep hno

/-- A run that spares what was given back ends with the same objects, but for what the run itself
does to them. -/
theorem alike_after (source : Source) (h : ofSource source = .ok s) (steps : List Step)
    (step : Step) (hno : ∀ number key value, step ≠ .givenSet number key value) :
    (s.objects.after (steps ++ [step])).Alike
      (s.objects.after (steps.filterMap Step.sparing ++ [step])) (s.objects.changed steps) := by
  have hstands := s.stands_of_ofSource source h
  have hstands' := hstands.after (steps.filterMap Step.sparing)
  rw [sourceAfter_sparing] at hstands'
  have halike := (Objects.alike_self s.objects).after hstands hstands steps
  have hlast := halike.answer (hstands.after steps) hstands' step hno
  unfold Objects.after at hlast ⊢
  rwa [List.foldl_append, List.foldl_append]

/-- The answer to the last step of a run. -/
theorem getLast?_run (source : Source) (h : ofSource source = .ok s) (steps : List Step)
    (step : Step) (hno : ∀ number key value, step ≠ .givenSet number key value) :
    (s.run (steps ++ [step])).getLast? = some (s.fresh (sourceAfter source steps) step) := by
  have hlength : (s.run (steps ++ [step])).length - 1 = steps.length := by
    rw [run, Objects.length_answers, List.length_append]
    rfl
  rw [List.getLast?_eq_getElem?, hlength,
    s.run_getElem? source h _ steps.length step (by simp) hno, List.take_left]

end Session

/-- An assignment to a mapping puts an entry into it; with a value that is no key it fails. -/
theorem apply_mapping (entries : Entries) (step : Step) :
    step.apply (.value (.mapping entries)) =
      .value (.mapping (Table.putAll entries step.assignment?.toList)) := by
  cases step with
  | sourceSet key value =>
    have hassign : (Source.value (.mapping entries)).assign key value =
        Source.value <$> key.asKey.map fun k => .mapping (Table.put entries k value) :=
      congrArg (Source.value <$> ·) (Value.assign_mapping entries key value)
    rw [Step.apply, hassign, Step.assignment?]
    cases key.asKey <;> rfl
  | _ => rfl

/-- A mapping has the entries that were put into it in order. -/
theorem sourceAfter_mapping (entries : Entries) (steps : List Step) :
    sourceAfter (.value (.mapping entries)) steps =
      .value (.mapping (Table.putAll entries (steps.filterMap Step.assignment?))) := by
  unfold sourceAfter
  induction steps generalizing entries with
  | nil => rfl
  | cons step steps ih =>
    rw [List.foldl_cons, apply_mapping, ih]
    cases hassignment : step.assignment? <;> simp [hassignment, Table.putAll]

/-- What the settings hold after some steps. -/
theorem source_now [Host] (data : Value) (entries : Entries)
    (hdata : data = .mapping entries ∨ data = .null ∧ entries = []) (s : Session)
    (hmade : Session.ofSource (.value data) = .ok s) (steps : List Step) :
    (s.now (sourceAfter (.value data) steps)).source = .mapping (if entries.isEmpty then [] else
      Table.putAll entries (steps.filterMap Step.assignment?)) := by
  obtain ⟨hsource, hsettings⟩ := (Session.ofSource_eq_ok_iff s _).1 hmade
  have hgiven : s.settings.source = given data := ((ofValue_eq_ok_iff _ _).1 hsettings).1
  have hshared : s.isShared = !data.isNothing := by
    rw [Session.isShared, hsource]
    rfl
  unfold Session.now
  obtain rfl | ⟨rfl, rfl⟩ := hdata
  · cases entries with
    | nil =>
      rw [hshared]
      exact hgiven
    | cons e entries =>
      rw [hshared, sourceAfter_mapping]
      rfl
  · rw [hshared]
    exact hgiven

/-- The memory after the steps of a run. -/
def Session.memoryAfter (s : Session) (steps : List Step) : Memory := (s.objects.after steps).memory

/-- Who finds a mapping that was given back in an answer sees what was done to it. -/
example :
    let entries : Entries := [(.text "a", .int 1)]
    let o := (Session.objects ⟨⟨.mapping entries, ⟨entries⟩⟩, .value (.mapping entries)⟩).after
      [.toMapping, .sourceSet (.text "y") (.again 2), .givenSet 0 (.text "z") (.int 5)]
    (o.answer .toMapping).1.map (o.memory.contents 1) =
      .ok (.mapping [(.text "a", .int 1),
        (.text "y", .mapping [(.text "a", .int 1), (.text "z", .int 5)])]) := by
  rfl

/-- An empty mapping is not the one that the settings hold. -/
example :
    (Session.run ⟨⟨.mapping [], ⟨[]⟩⟩, .value (.mapping [])⟩
      [.sourceSet (.text "a") (.int 1), .toMapping]) = [.ok .null, .ok (.mapping [])] := by
  rfl

end Settings

end DotPath

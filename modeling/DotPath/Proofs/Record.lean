import DotPath.Proofs.Outcome
import DotPath.Proofs.Table.Merged
import DotPath.Release.Schema

set_option autoImplicit false

/-!
Records that fit their schema: a record made of named values holds for every field a value of its
type and is made again of itself; whatever does not fit is told as faults of the fields. The
releases, migrations and security reports of a history fit their schemas, and the problems are the
error records that are made of their facts.
-/

namespace DotPath

/-- The values that a field of a type holds. -/
inductive FieldType.Holds : FieldType → Value → Prop
  | text (s : String) : Holds .text (.text s)
  | nothing : Holds .optionalText .null
  | optionalText (s : String) : Holds .optionalText (.text s)
  | flag (b : Bool) : Holds .flag (.bool b)
  | texts (ss : List String) : Holds .texts (.texts ss)
  | choice (words : List String) (word : String) (h : word ∈ words) :
    Holds (.choice words) (.text word)

/-- Every field has its own name, and what is held by default could be given as well. -/
structure Schema.Sound (s : Schema) : Prop where
  nodup : (s.fields.map (·.name)).Nodup
  default : ∀ f ∈ s.fields, ∀ v, f.default = some v → f.type.Holds v

/-- The record names the fields in order and holds for each a value of its type. -/
def Record.Fits (fields : List Field) (r : Record) : Prop :=
  List.Forall₂ (fun f e => e.1 = f.name ∧ f.type.Holds e.2) fields r

namespace Record

section Fitted

variable {α β γ : Type}

theorem both_eq_ok_iff (f : α → β → γ) (x : Fitted α) (y : Fitted β) (c : γ) :
    both f x y = .ok c ↔ ∃ a b, x = .ok a ∧ y = .ok b ∧ f a b = c := by
  cases x <;> cases y <;> simp [both]

/-- The faults of two results are those of either, and there are some if either has some. -/
theorem both_eq_error_iff (f : α → β → γ) (x : Fitted α) (y : Fitted β) (faults : List FieldFault) :
    both f x y = .error faults ↔
      (∃ a, x = .ok a ∧ y = .error faults) ∨ (∃ b, x = .error faults ∧ y = .ok b) ∨
        ∃ ds es, x = .error ds ∧ y = .error es ∧ ds ++ es = faults := by
  cases x <;> cases y <;> simp [both]

/-- A failure tells some faults, all of them of places under the name. -/
def Under (name : String) (x : Fitted α) : Prop :=
  ∀ faults, x = .error faults → faults ≠ [] ∧ ∀ fault ∈ faults, fault.place.head? = some name

theorem under_map (name : String) (f : α → β) (x : Fitted α) (h : Under name x) :
    Under name (f <$> x) := by
  cases x with
  | ok a => simp [Under, Functor.map, Except.map]
  | error es => simpa [Under, Functor.map, Except.map] using h

theorem under_both (name : String) (f : α → β → γ) (x : Fitted α) (y : Fitted β)
    (hx : Under name x) (hy : Under name y) : Under name (both f x y) := by
  intro faults h
  rcases (both_eq_error_iff f x y faults).1 h with
    ⟨-, -, hes⟩ | ⟨-, hds, -⟩ | ⟨ds, es, hds, hes, rfl⟩
  · exact hy faults hes
  · exact hx faults hds
  · obtain ⟨hne, hd⟩ := hx ds hds
    obtain ⟨-, he⟩ := hy es hes
    exact ⟨by simp [hne], fun fault hf => (List.mem_append.1 hf).elim (hd fault) (he fault)⟩

theorem under_atPlace (name : String) (rest : List String) (r : Except FieldProblem α) :
    Under name (atPlace (name :: rest) r) := by
  cases r with
  | ok a => simp [Under, atPlace, Except.mapError]
  | error p =>
    rintro faults ⟨⟩
    simp

theorem under_error (name : String) (p : FieldProblem) :
    Under name (.error [⟨p, [name]⟩] : Fitted α) := by
  rintro faults ⟨⟩
  simp

end Fitted

/-! ### Lists of texts -/

theorem exists_texts_of_readTexts (field : String) (i : Nat) (items ws : List Value)
    (h : readTexts field i items = .ok ws) : ∃ ss : List String, ws = ss.map .text := by
  induction items generalizing i ws with
  | nil =>
    cases h
    exact ⟨[], rfl⟩
  | cons v items ih =>
    obtain ⟨w, us, hw, hus, rfl⟩ := (both_eq_ok_iff _ _ _ ws).1 h
    obtain ⟨s, -, rfl⟩ := (map_eq_ok_iff _ _ w).1 hw
    obtain ⟨ss, rfl⟩ := ih (i + 1) us hus
    exact ⟨s :: ss, rfl⟩

theorem readTexts_texts (field : String) (i : Nat) (ss : List String) :
    readTexts field i (ss.map .text) = .ok (ss.map .text) := by
  induction ss generalizing i with
  | nil => rfl
  | cons s ss ih =>
    exact (both_eq_ok_iff _ _ _ _).2 ⟨.text s, ss.map .text, rfl, ih (i + 1), rfl⟩

theorem under_readTexts (field : String) (i : Nat) (items : List Value) :
    Under field (readTexts field i items) := by
  induction items generalizing i with
  | nil => simp [Under, readTexts]
  | cons v items ih =>
    exact under_both field _ _ _ (under_map field _ _ (under_atPlace field _ _)) (ih (i + 1))

theorem Fits.names (fields : List Field) (r : Record) (h : Fits fields r) :
    Table.keys r = fields.map (·.name) := by
  induction h with
  | nil => rfl
  | cons he _ ih => simpa [Table.keys, he.1] using ih

/-! ### Fields -/

section Fields

variable [Host]

theorem holds_of_readField (field : String) (type : FieldType) (v w : Value)
    (h : readField field type v = .ok w) : type.Holds w := by
  cases type with
  | text =>
    obtain ⟨s, -, rfl⟩ := (map_eq_ok_iff _ _ w).1 h
    exact .text s
  | optionalText =>
    simp only [readField] at h
    split at h
    · cases h
      exact .nothing
    · obtain ⟨s, -, rfl⟩ := (map_eq_ok_iff _ _ w).1 h
      exact .optionalText s
  | flag =>
    obtain ⟨b, -, rfl⟩ := (map_eq_ok_iff _ _ w).1 h
    exact .flag b
  | texts =>
    have hlist (items : List Value) (h : Value.list <$> readTexts field 0 items = .ok w) :
        FieldType.texts.Holds w := by
      obtain ⟨ws, hws, rfl⟩ := (map_eq_ok_iff _ _ w).1 h
      obtain ⟨ss, rfl⟩ := exists_texts_of_readTexts field 0 items ws hws
      exact .texts ss
    simp only [readField] at h
    split at h <;> first | exact hlist _ h | cases h
  | choice words =>
    simp only [readField] at h
    split at h
    next s hs =>
      split at h
      next hmem =>
        cases h
        obtain rfl : v = .text s := by
          unfold Value.text? at hs
          split at hs <;> cases hs
          rfl
        exact .choice words s (by simpa using hmem)
      next => cases h
    next => cases h

theorem readField_of_holds (field : String) (type : FieldType) (v : Value) (h : type.Holds v) :
    readField field type v = .ok v := by
  cases h with
  | text s | nothing | optionalText s | flag b => rfl
  | texts ss => simp [readField, Value.texts, readTexts_texts, Functor.map, Except.map]
  | choice words word h => simp [readField, Value.text, Value.text?, h]

theorem under_readField (field : String) (type : FieldType) (v : Value) :
    Under field (readField field type v) := by
  cases type with
  | text | flag => exact under_map field _ _ (under_atPlace field _ _)
  | optionalText =>
    simp only [readField]
    split
    · simp [Under]
    · exact under_map field _ _ (under_atPlace field _ _)
  | texts =>
    simp only [readField]
    split <;>
      first | exact under_error field _ | exact under_map field _ _ (under_readTexts field 0 _)
  | choice words =>
    simp only [readField]
    split
    · split
      · simp [Under]
      · exact under_error field _
    · exact under_error field _

theorem under_fieldOf (args : Arguments) (f : Field) : Under f.name (fieldOf args f) := by
  unfold fieldOf
  split
  · exact under_readField f.name f.type _
  · simp [Under]
  · exact under_error f.name _

theorem holds_of_fieldOf (args : Arguments) (f : Field)
    (hd : ∀ v, f.default = some v → f.type.Holds v) (v : Value) (h : fieldOf args f = .ok v) :
    f.type.Holds v := by
  unfold fieldOf at h
  split at h
  · exact holds_of_readField f.name f.type _ v h
  next d _ hdefault =>
    cases h
    exact hd v hdefault
  · cases h

/-! ### Records -/

theorem fits_of_ofFields (args : Arguments) (fields : List Field) (r : Record)
    (hd : ∀ f ∈ fields, ∀ v, f.default = some v → f.type.Holds v)
    (h : ofFields args fields = .ok r) : Fits fields r := by
  induction fields generalizing r with
  | nil =>
    cases h
    exact .nil
  | cons f fs ih =>
    obtain ⟨e, es, he, hes, rfl⟩ := (both_eq_ok_iff _ _ _ r).1 h
    obtain ⟨v, hv, rfl⟩ := (map_eq_ok_iff _ _ e).1 he
    exact .cons ⟨rfl, holds_of_fieldOf args f (hd f (by simp)) v hv⟩
      (ih es (fun g hg => hd g (by simp [hg])) hes)

theorem ofFields_of_fits (args : Arguments) (fields : List Field) (r : Record)
    (hr : Fits fields r) (hargs : ∀ e ∈ r, Table.get? args e.1 = some e.2) :
    ofFields args fields = .ok r := by
  induction hr with
  | nil => rfl
  | @cons f e fs es he _ ih =>
    obtain ⟨name, v⟩ := e
    obtain ⟨rfl, hv⟩ := he
    have hfield : fieldOf args f = .ok v := by
      simp only [fieldOf, hargs (f.name, v) (by simp)]
      exact readField_of_holds f.name f.type v hv
    exact (both_eq_ok_iff _ _ _ _).2 ⟨(f.name, v), es, by rw [hfield]; rfl,
      ih fun e he => hargs e (by simp [he]), rfl⟩

/-- What does not fit is told, and every fault leads to a field. -/
theorem faults_of_ofFields (args : Arguments) (fields : List Field) (faults : List FieldFault)
    (h : ofFields args fields = .error faults) :
    faults ≠ [] ∧ ∀ fault ∈ faults, ∃ f ∈ fields, fault.place.head? = some f.name := by
  induction fields generalizing faults with
  | nil => cases h
  | cons f fs ih =>
    have hf : Under f.name ((fun v => (f.name, v)) <$> fieldOf args f) :=
      under_map f.name _ _ (under_fieldOf args f)
    rcases (both_eq_error_iff _ _ _ faults).1 h with
      ⟨-, -, hes⟩ | ⟨-, hds, -⟩ | ⟨ds, es, hds, hes, rfl⟩
    · obtain ⟨hne, hall⟩ := ih faults hes
      exact ⟨hne, fun fault hfault => by simp [hall fault hfault]⟩
    · obtain ⟨hne, hall⟩ := hf faults hds
      exact ⟨hne, fun fault hfault => ⟨f, by simp, hall fault hfault⟩⟩
    · obtain ⟨hne, hd⟩ := hf ds hds
      obtain ⟨-, he⟩ := ih es hes
      refine ⟨by simp [hne], fun fault hfault => ?_⟩
      rcases List.mem_append.1 hfault with hmem | hmem
      · exact ⟨f, by simp, hd fault hmem⟩
      · obtain ⟨g, hg, hplace⟩ := he fault hmem
        exact ⟨g, by simp [hg], hplace⟩

/-- A record that fits is made of itself. -/
theorem make_of_fits (s : Schema) (hs : s.Sound) (r : Record) (h : Fits s.fields r) :
    make s r = .ok r := by
  refine ofFields_of_fits r s.fields r h fun e he => ?_
  have hkeys : (Table.keys r).Nodup := h.names s.fields r ▸ hs.nodup
  have hdistinct : Table.Distinct r :=
    (Table.distinct_iff r).2 (hkeys.imp fun hne => beq_eq_false_iff_ne.2 hne)
  exact Table.get?_of_mem r e e.1 hdistinct he (beq_self_eq_true e.1)

/-- Named values make a record that fits and is made again of itself, or the faults of some
fields. -/
theorem make_spec (s : Schema) (hs : s.Sound) (args : Arguments) :
    match make s args with
    | .ok r => Fits s.fields r ∧ make s r = .ok r
    | .error faults =>
      faults ≠ [] ∧ ∀ fault ∈ faults, ∃ f ∈ s.fields, fault.place.head? = some f.name := by
  cases h : make s args with
  | ok r =>
    have hfits := fits_of_ofFields args s.fields r hs.default h
    exact ⟨hfits, make_of_fits s hs r hfits⟩
  | error faults => exact faults_of_ofFields args s.fields faults h

end Fields

/-- Setting a name keeps the names of a record; only the table of its fields can be set to one with
other names. -/
theorem keys_of_set (s : Schema) (r r' : Record) (name : String) (v : Value)
    (hr : Table.keys r = s.fields.map (·.name)) (hname : name ≠ "__dict__")
    (h : set s r name v = .ok r') : Table.keys r' = Table.keys r := by
  unfold set at h
  split at h
  · have hhidden := (mapError_eq_ok_iff _ _ r').1 h
    unfold setHidden at hhidden
    split at hhidden
    · cases hhidden
    · exact absurd rfl hname
    · cases hhidden
    · cases hhidden
      rfl
  · split at h
    · cases h
    · split at h
      · cases h
      · split at h
        next hfield =>
          cases h
          refine Table.keys_put_of_contains r name v ((Table.contains_iff r name).2 ⟨name, ?_, ?_⟩)
          · obtain ⟨f, hf, hfname⟩ := List.any_eq_true.1 hfield
            exact hr ▸ List.mem_map.2 ⟨f, hf, by simpa using hfname⟩
          · exact beq_self_eq_true name
        · cases h

/-- Nothing of a frozen record can be set but what is hidden. -/
theorem startsWith_of_set (s : Schema) (hs : s.frozen) (r r' : Record) (name : String) (v : Value)
    (h : set s r name v = .ok r') : name.startsWith "_" := by
  by_contra hname
  simp [set, hname, hs] at h

end Record

namespace Release

open Record

/-- The schemas are sound: what they hold by default could be given as well. -/
theorem sound_schemas : ∀ s ∈ schemas, s.Sound := by
  intro s hs
  constructor
  case nodup =>
    revert s
    decide
  case default =>
    intro f hf v hv
    fin_cases hs <;> fin_cases hf <;> cases hv <;> first | exact .texts [] | exact .nothing

theorem fits_toRecord (r : Release) : Fits schema.fields r.toRecord :=
  .cons ⟨rfl, .text _⟩ <| .cons ⟨rfl, .texts _⟩ <| .cons ⟨rfl, .texts _⟩ <|
    .cons ⟨rfl, .texts _⟩ .nil

theorem Migration.fits_toRecord (m : Migration) : Fits Migration.schema.fields m.toRecord := by
  have hname : m.compatibility.name ∈ [Compatibility.compatible, .needsMigration, .incompatible].map
      Compatibility.name := by
    cases m.compatibility <;> simp
  exact .cons ⟨rfl, .text _⟩ <| .cons ⟨rfl, .optionalText _⟩ <| .cons ⟨rfl, .flag _⟩ <|
    .cons ⟨rfl, .texts _⟩ <| .cons ⟨rfl, .texts _⟩ <| .cons ⟨rfl, .choice _ _ hname⟩ .nil

theorem Security.fits_toRecord (s : Security) : Fits Security.schema.fields s.toRecord :=
  .cons ⟨rfl, .text _⟩ <| .cons ⟨rfl, .flag _⟩ <| .cons ⟨rfl, .texts _⟩ <|
    .cons ⟨rfl, .texts _⟩ .nil

/-- A release is read back of its record. -/
theorem ofArguments_toRecord [Host] (r : Release) : ofArguments r.toRecord = .ok r := by
  have hmake : make schema r.toRecord = .ok r.toRecord :=
    make_of_fits schema (sound_schemas schema (by simp [schemas])) r.toRecord r.fits_toRecord
  exact (map_eq_ok_iff _ _ r).2 ⟨r.toRecord, hmake, ofRecord_toRecord r⟩

end Release

/-! ### Errors -/

/-- The arguments of which the problem is made. -/
def Problem.arguments : Problem → Arguments
  | .configInvalid message => [("message", .text message)]
  | .valueNotFound keyName path reason =>
    [("key_name", .text keyName), ("path", .text path), ("reason", .text reason)]
  | p => p.details

namespace ErrorRecord

theorem fromItems_texts (i : Nat) (ss : List String) :
    textsOf.fromItems i (ss.map .text) = .ok ss := by
  induction ss generalizing i with
  | nil => rfl
  | cons s ss ih =>
    simp [textsOf.fromItems, Value.text, Value.plainText?, ih, Functor.map, Except.map]

variable [Host]

theorem messageOf_arguments (p : Problem) :
    messageOf p.kind p.arguments = .ok (.text p.message) := by
  cases p with
  | versionNotFound versions =>
    simp [messageOf, Problem.kind, Problem.arguments, Problem.details, Table.get?, Value.texts,
      textsOf, fromItems_texts, Problem.message, bind, Except.bind, pure, Except.pure]
  | indexOutOfBounds index length => rfl
  | _ =>
    simp [messageOf, Problem.kind, Problem.arguments, Problem.details, Table.get?,
      Problem.message, pure, Except.pure]

/-- A problem says what the error record says that is made of its facts. -/
theorem make_arguments (p : Problem) (cause : Option String) :
    make p.kind p.arguments cause =
      .ok { kind := p.kind, code := .text p.code, message := .text p.message,
            details := .fields p.details, cause } := by
  have hown : ownFault? p.kind (p.arguments.map (·.1)) = none := by
    cases p <;> rfl
  have hpassed : passedFault? p.kind (p.arguments.map (·.1)) = none := by
    cases p <;> rfl
  have hdetails : detailsOf p.kind p.arguments = .fields p.details := by
    cases p <;> rfl
  have hkind : p.kind ≠ .general := by
    cases p <;> simp [Problem.kind]
  simp [make, hown, messageOf_arguments, hpassed, hdetails, hkind, Problem.code, bind, Except.bind,
    pure, Except.pure]

theorem line_make_arguments (p : Problem) (cause : Option String) :
    (make p.kind p.arguments cause).map line = .ok p.line := by
  rw [make_arguments]
  simp [Except.map, line, Problem.line]

end ErrorRecord

end DotPath

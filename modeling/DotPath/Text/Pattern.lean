set_option autoImplicit false

/-!
Regular patterns over characters, matched against a whole text one character at a time: the
*rest* of a pattern after a character accepts what the pattern accepts with that character in
front. Main statements: `accepts_seq` and its companions give each pattern its meaning.
-/

namespace DotPath.Text

inductive Pattern where
  | never
  | done
  | one (holds : Char → Bool)
  | seq (first second : Pattern)
  | either (first second : Pattern)
  | many (body : Pattern)

namespace Pattern

/-- Does the pattern accept the empty text? -/
def acceptsNil : Pattern → Bool
  | never | one _ => false
  | done | many _ => true
  | seq p q => p.acceptsNil && q.acceptsNil
  | either p q => p.acceptsNil || q.acceptsNil

/-- A sequence, kept small where a part can be dropped. -/
def andThen : Pattern → Pattern → Pattern
  | never, _ => never
  | done, q => q
  | p, q => seq p q

/-- An alternative, kept small where a part can be dropped. -/
def orElse : Pattern → Pattern → Pattern
  | never, q => q
  | p, never => p
  | p, q => either p q

/-- What is left of a pattern after a character. -/
def rest (c : Char) : Pattern → Pattern
  | never | done => never
  | one holds => if holds c then done else never
  | seq p q =>
    if p.acceptsNil then orElse (andThen (p.rest c) q) (q.rest c) else andThen (p.rest c) q
  | either p q => orElse (p.rest c) (q.rest c)
  | many p => andThen (p.rest c) (many p)

def accepts : Pattern → List Char → Bool
  | p, [] => p.acceptsNil
  | p, c :: cs => (p.rest c).accepts cs

def char (c : Char) : Pattern := one (· == c)

def anyOf (cs : String) : Pattern := one (cs.toList.contains ·)

def text (s : String) : Pattern := s.toList.foldr (fun c p => seq (char c) p) done

def oneOf (words : List String) : Pattern := words.foldr (fun w p => either (text w) p) never

def optional (p : Pattern) : Pattern := either p done

def repeated (p : Pattern) : Pattern := seq p (many p)

/-- The patterns one after the other. -/
def all (ps : List Pattern) : Pattern := ps.foldr seq done

def any (ps : List Pattern) : Pattern := ps.foldr either never

theorem accepts_never (cs : List Char) : never.accepts cs = false := by
  induction cs with
  | nil => rfl
  | cons c cs ih => simpa [accepts, rest] using ih

theorem accepts_orElse (p q : Pattern) (cs : List Char) :
    (orElse p q).accepts cs = (p.accepts cs || q.accepts cs) := by
  have either_iff : ∀ (cs : List Char) (p q : Pattern),
      (∀ p q : Pattern, ∀ ds : List Char, ds.length < cs.length →
        (orElse p q).accepts ds = (p.accepts ds || q.accepts ds)) →
      (either p q).accepts cs = (p.accepts cs || q.accepts cs) := by
    intro cs p q ih
    cases cs with
    | nil => rfl
    | cons c cs => simpa [accepts, rest] using ih (p.rest c) (q.rest c) cs (by simp)
  induction hn : cs.length using Nat.strongRecOn generalizing cs p q with
  | ind n ih =>
    have step := either_iff cs p q fun p q ds hd => ih ds.length (hn ▸ hd) p q ds rfl
    unfold orElse
    split <;> simp_all [accepts_never]

theorem accepts_either (p q : Pattern) (cs : List Char) :
    (either p q).accepts cs = (p.accepts cs || q.accepts cs) := by
  cases cs with
  | nil => rfl
  | cons c cs => simp [accepts, rest, accepts_orElse]

theorem accepts_andThen (p q : Pattern) (cs : List Char) :
    (andThen p q).accepts cs = (seq p q).accepts cs := by
  unfold andThen
  split
  · cases cs <;> simp [accepts, rest, acceptsNil, andThen, accepts_never]
  · cases cs <;> simp [accepts, rest, acceptsNil, andThen, orElse]
  · rfl

theorem accepts_seq (p q : Pattern) (cs : List Char) :
    (seq p q).accepts cs ↔ ∃ xs ys, cs = xs ++ ys ∧ p.accepts xs ∧ q.accepts ys := by
  induction cs generalizing p q with
  | nil =>
    constructor
    · intro h
      have hpq : p.acceptsNil ∧ q.acceptsNil := by simpa [accepts, acceptsNil] using h
      exact ⟨[], [], rfl, hpq⟩
    · rintro ⟨xs, ys, h, hp, hq⟩
      obtain ⟨rfl, rfl⟩ := List.append_eq_nil_iff.1 h.symm
      simpa [accepts, acceptsNil] using And.intro hp hq
  | cons c cs ih =>
    have hrest : (andThen (p.rest c) q).accepts cs ↔
        ∃ xs ys, cs = xs ++ ys ∧ (p.rest c).accepts xs ∧ q.accepts ys := by
      rw [accepts_andThen]
      exact ih (p.rest c) q
    have hstep : (seq p q).accepts (c :: cs) ↔
        (p.acceptsNil ∧ q.accepts (c :: cs)) ∨ (andThen (p.rest c) q).accepts cs := by
      by_cases hp : p.acceptsNil
      · simp [accepts, rest, hp, accepts_orElse, or_comm]
      · simp [accepts, rest, hp]
    rw [hstep, hrest]
    constructor
    · rintro (⟨hp, hq⟩ | ⟨xs, ys, rfl, hp, hq⟩)
      · exact ⟨[], c :: cs, rfl, hp, hq⟩
      · exact ⟨c :: xs, ys, rfl, hp, hq⟩
    · rintro ⟨xs, ys, hcs, hp, hq⟩
      cases xs with
      | nil =>
        obtain rfl : c :: cs = ys := hcs
        exact .inl ⟨hp, hq⟩
      | cons d xs =>
        obtain ⟨rfl, rfl⟩ : c = d ∧ cs = xs ++ ys := by simpa using hcs
        exact .inr ⟨xs, ys, rfl, hp, hq⟩

theorem accepts_done (cs : List Char) : done.accepts cs ↔ cs = [] := by
  cases cs <;> simp [accepts, acceptsNil, rest, accepts_never]

theorem accepts_one (holds : Char → Bool) (cs : List Char) :
    (one holds).accepts cs ↔ ∃ c, cs = [c] ∧ holds c := by
  cases cs with
  | nil => simp [accepts, acceptsNil]
  | cons c cs =>
    have hstep : (one holds).accepts (c :: cs) ↔ cs = [] ∧ holds c := by
      by_cases hc : holds c <;> simp [accepts, rest, hc, accepts_done, accepts_never]
    rw [hstep]
    constructor
    · rintro ⟨rfl, hc⟩
      exact ⟨c, rfl, hc⟩
    · rintro ⟨d, hd, hc⟩
      obtain ⟨rfl, rfl⟩ := List.cons.inj hd
      exact ⟨rfl, hc⟩

theorem accepts_many_one (holds : Char → Bool) (cs : List Char) :
    (many (one holds)).accepts cs = cs.all holds := by
  induction cs with
  | nil => rfl
  | cons c cs ih =>
    by_cases hc : holds c
    · simpa [accepts, rest, andThen, hc] using ih
    · simp [accepts, rest, andThen, hc, accepts_never]

theorem accepts_repeated_one (holds : Char → Bool) (cs : List Char) :
    (repeated (one holds)).accepts cs ↔ cs ≠ [] ∧ ∀ c ∈ cs, holds c := by
  rw [repeated, accepts_seq]
  simp only [accepts_one, accepts_many_one, List.all_eq_true]
  constructor
  · rintro ⟨_, ys, rfl, ⟨c, rfl, hc⟩, hys⟩
    simpa using ⟨hc, hys⟩
  · rintro ⟨hne, hall⟩
    cases cs with
    | nil => exact absurd rfl hne
    | cons c cs =>
      exact ⟨[c], cs, rfl, ⟨c, rfl, hall c (by simp)⟩, fun d hd => hall d (by simp [hd])⟩

theorem accepts_optional (p : Pattern) (cs : List Char) :
    (optional p).accepts cs ↔ p.accepts cs ∨ cs = [] := by
  rw [optional, accepts_either, Bool.or_eq_true, accepts_done]

end Pattern

end DotPath.Text

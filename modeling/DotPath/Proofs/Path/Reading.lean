import DotPath.Proofs.Path.Failures
import DotPath.Store

set_option autoImplicit false

/-!
Reading a path before it is resolved. Two paths joined by a dot are read one after the other, and
the first failure is that of the whole. A path that cannot be read fails in the same way in whatever
it is resolved.
-/

namespace DotPath.Path

/-- The first raw segment of the path that cannot be read. -/
def FirstUnread (path raw : String) : Prop :=
  ∃ before after, raws path = before ++ raw :: after ∧
    (∀ r ∈ before, ∃ s, Segment.parse r = .ok s) ∧ ∃ f, Segment.parse raw = .error f

/-- A raw segment without a character between its dots is refused. -/
def emptySegment : Failure := (Problem.invalidSegment "").failure

theorem parse_of_ne_empty (path : String) (h : path ≠ "") :
    parse path = (raws path).mapM Segment.parse := by
  rw [parse, if_neg (by simpa using h)]

theorem append_dot_ne_empty (p q : String) : p ++ "." ++ q ≠ "" := by
  intro h
  simpa using congrArg String.toList h

theorem parse_joined (p q : String) (hp : p ≠ "") (hq : q ≠ "") :
    parse (p ++ "." ++ q) = (do
      let ss ← parse p
      let ts ← parse q
      pure (ss ++ ts)) := by
  rw [parse_of_ne_empty _ (append_dot_ne_empty p q), raws_append, List.mapM_append,
    ← parse_of_ne_empty p hp, ← parse_of_ne_empty q hq]

theorem parse_emptySegment : [""].mapM Segment.parse = .error emptySegment := by
  rw [mapM_error_iff]
  exact ⟨[], "", [], rfl, by simp,
    Segment.parse_of_none "" (Segment.lastWord?_of_forall_not _ (by simp))⟩

theorem parse_dot_before (q : String) : parse ("." ++ q) = .error emptySegment := by
  have hraws : raws ("." ++ q) = [""] ++ raws q := raws_append "" q
  have hne : "." ++ q ≠ "" := append_dot_ne_empty "" q
  rw [parse_of_ne_empty _ hne, hraws, List.mapM_append, parse_emptySegment]
  rfl

theorem parse_dot_after (p : String) (hp : p ≠ "") :
    parse (p ++ ".") = parse p >>= fun _ => .error emptySegment := by
  have hjoin : p ++ "." ++ "" = p ++ "." := String.append_empty
  have hne : p ++ "." ≠ "" := by rw [← hjoin]; exact append_dot_ne_empty p ""
  have hraws : raws (p ++ ".") = raws p ++ [""] := by rw [← hjoin, raws_append]; rfl
  rw [parse_of_ne_empty _ hne, hraws, List.mapM_append, parse_emptySegment,
    ← parse_of_ne_empty p hp]
  rfl

theorem parse_dots_between (p q : String) (hp : p ≠ "") :
    parse (p ++ ".." ++ q) = parse p >>= fun _ => .error emptySegment := by
  have hjoin : p ++ ".." ++ q = p ++ "." ++ ("." ++ q) := by
    rw [show ".." = "." ++ "." from rfl]
    simp only [String.append_assoc]
  have hq : "." ++ q ≠ "" := append_dot_ne_empty "" q
  rw [hjoin, parse_joined p _ hp hq, parse_dot_before]
  rfl

theorem parse_eq_emptyPath_iff (path : String) :
    parse path = .error Problem.emptyPath.failure ↔ path = "" := by
  refine ⟨fun h => ?_, fun h => by rw [h]; rfl⟩
  by_contra hne
  rw [parse_of_ne_empty path hne, mapM_error_iff] at h
  obtain ⟨_, raw, _, _, _, hraw⟩ := h
  obtain ⟨-, hf⟩ | ⟨key, ds, -, -, hf⟩ := (Segment.parse_error_iff raw _).1 hraw
  · cases hf
  · cases hf

theorem parse_eq_invalidSegment_iff (path raw : String) :
    parse path = .error (Problem.invalidSegment raw).failure ↔
      path ≠ "" ∧ FirstUnread path raw ∧ ∀ c ∈ raw.toList, ¬ isWordChar c := by
  by_cases hne : path = ""
  · subst hne
    rw [(parse_eq_emptyPath_iff "").2 rfl]
    simp [Problem.failure]
  rw [parse_of_ne_empty path hne, mapM_error_iff, ← Segment.lastWord?_eq_none_iff]
  constructor
  · rintro ⟨before, r, after, hraws, hbefore, hr⟩
    obtain ⟨hnone, hf⟩ | ⟨key, ds, -, -, hf⟩ := (Segment.parse_error_iff r _).1 hr
    · obtain rfl : raw = r := by simpa using hf
      exact ⟨hne, ⟨before, after, hraws, hbefore, _, hr⟩, hnone⟩
    · cases hf
  · rintro ⟨-, ⟨before, after, hraws, hbefore, -⟩, hnone⟩
    exact ⟨before, raw, after, hraws, hbefore, Segment.parse_of_none raw hnone⟩

/-- A path is read as its parts are, from the left to the first that cannot be read, and this is
settled before anything is looked up. -/
theorem parse_precedes_resolve :
    (∀ p q, p ≠ "" → q ≠ "" →
      parse (p ++ "." ++ q) = (do
        let ss ← parse p
        let ts ← parse q
        pure (ss ++ ts))) ∧
    (∀ path, parse path = .error Problem.emptyPath.failure ↔ path = "") ∧
    (∀ path raw, parse path = .error (Problem.invalidSegment raw).failure ↔
      path ≠ "" ∧ FirstUnread path raw ∧ ∀ c ∈ raw.toList, ¬ isWordChar c) ∧
    (∀ p q, parse ("." ++ q) = .error emptySegment ∧
      (p ≠ "" → (parse (p ++ ".") = parse p >>= fun _ => .error emptySegment) ∧
        parse (p ++ ".." ++ q) = parse p >>= fun _ => .error emptySegment)) ∧
    ∀ path f, parse path = .error f →
      (∀ v, resolveIn v (.text path) = .error f) ∧
        ∀ s : Store, s.resolve (.text path) = .error f := by
  refine ⟨parse_joined, parse_eq_emptyPath_iff, parse_eq_invalidSegment_iff,
    fun p q => ⟨parse_dot_before q, fun hp => ⟨parse_dot_after p hp, parse_dots_between p q hp⟩⟩,
    fun path f h => ⟨fun v => resolveIn_of_parse_error v path f h, fun s => ?_⟩⟩
  exact resolveIn_of_parse_error (.mapping s.entries) path f h

/-- The doubled dot is what is told, and not that there is no key `x`. -/
theorem parse_precedes_resolve_missing_key :
    let s : Store := ⟨[(.text "a", .int 1)]⟩
    "x#9" ≠ "" ∧ ".!" ≠ "" ∧
      parse ("x#9" ++ "." ++ ".!") = (do
        let ss ← parse "x#9"
        let ts ← parse ".!"
        pure (ss ++ ts)) ∧
      parse "x#9..!" = .error emptySegment ∧ FirstUnread "x#9..!" "" ∧
      s.resolve (.text "x#9..!") = .error emptySegment := by
  intro s
  have hparse : parse "x#9..!" = .error emptySegment := by decide +kernel
  obtain ⟨hjoined, -, hsegment, -, hresolve⟩ := parse_precedes_resolve
  exact ⟨by decide, by decide, hjoined "x#9" ".!" (by decide) (by decide), hparse,
    ((hsegment "x#9..!" "").1 hparse).2.1, (hresolve "x#9..!" emptySegment hparse).2 s⟩

end DotPath.Path

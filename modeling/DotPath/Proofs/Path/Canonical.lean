import DotPath.Proofs.Path.Walk

set_option autoImplicit false

/-!
Canonical paths. A path that can be read has one: its segments in their plainest form. It is read as
the path is and followed as the path is, so noise, leading zeros and idle `#` marks say nothing.
-/

namespace DotPath.Path

open Number

/-- The plainest path with the segments of a path. -/
def canonical (path : String) : Except Failure String := render <$> parse path

theorem canonical_of_parse (path : String) (segments : List Segment)
    (h : parse path = .ok segments) : canonical path = .ok (render segments) := by
  rw [canonical, h]
  rfl

section Read

variable (path : String) (segments : List Segment) (hp : parse path = .ok segments)

include hp

theorem parse_canonical : parse (render segments) = .ok segments :=
  parse_render segments (parse_ne_nil path segments hp) (proper_of_parse path segments hp)

/-- A store tells a path from its canonical form by the text in its problems only. -/
theorem resolve_canonical (top : Value.Entries) :
    resolve top (render segments) =
      (resolve top path).mapError (Failure.withPath (render segments)) := by
  rw [resolve_of_parse top _ _ (parse_canonical path segments hp),
    resolve_of_parse top path segments hp, ← walk_withPath path (render segments)]
  cases walk path top segments <;> rfl

end Read

/-- Proper segments are read back from their plainest path. A path that can be read is made of
proper segments, and its canonical form is canonical, is read alike and is followed alike. -/
theorem canonical_form :
    (∀ segments : List Segment, segments ≠ [] → (∀ s ∈ segments, s.Proper) →
      parse (render segments) = .ok segments) ∧
    ∀ (path : String) (segments : List Segment), parse path = .ok segments →
      segments ≠ [] ∧ (∀ s ∈ segments, s.Proper) ∧
        ∃ c, canonical path = .ok c ∧ canonical c = .ok c ∧ parse c = parse path ∧
          ∀ top, resolve top c = (resolve top path).mapError (Failure.withPath c) := by
  refine ⟨parse_render, fun path segments hp => ⟨parse_ne_nil path segments hp,
    proper_of_parse path segments hp, render segments, canonical_of_parse path segments hp, ?_, ?_,
    resolve_canonical path segments hp⟩⟩
  · exact canonical_of_parse _ segments (parse_canonical path segments hp)
  · rw [parse_canonical path segments hp, hp]

theorem canonical_form_noisy_path :
    parse "a!b#007.7#.c#0" = .ok [⟨"b", some 7⟩, ⟨"7", none⟩, ⟨"c", some 0⟩] ∧
      parse (render [⟨"b", some 7⟩, ⟨"7", none⟩, ⟨"c", some 0⟩]) =
        .ok [⟨"b", some 7⟩, ⟨"7", none⟩, ⟨"c", some 0⟩] ∧
      canonical "a!b#007.7#.c#0" = .ok "b#7.7.c#0" ∧ canonical "b#7.7.c#0" = .ok "b#7.7.c#0" ∧
      ∀ top, resolve top "b#7.7.c#0" =
        (resolve top "a!b#007.7#.c#0").mapError (Failure.withPath "b#7.7.c#0") := by
  have hp : parse "a!b#007.7#.c#0" = .ok [⟨"b", some 7⟩, ⟨"7", none⟩, ⟨"c", some 0⟩] := by cbv
  have hcanonical : canonical "a!b#007.7#.c#0" = .ok "b#7.7.c#0" := by cbv
  obtain ⟨hne, hproper, c, hc, hagain, -, hsame⟩ := canonical_form.2 _ _ hp
  obtain rfl : c = "b#7.7.c#0" := Except.ok.inj (hc.symm.trans hcanonical)
  exact ⟨hp, canonical_form.1 _ hne hproper, hcanonical, hagain, hsame⟩

end DotPath.Path

import DotPath.Document
import DotPath.Proofs.Yaml.Build

set_option autoImplicit false

/-!
Blank texts of YAML. Reading goes through a text from its front to its end, so what is left of a
blank text is blank; there is no mark of a collection in it, and what comes of it is a scalar, if
anything does.
-/

namespace DotPath.Yaml

open Text

namespace Cursor

/-- The one cursor stands farther on in the same text. -/
def Follows (d c : Cursor) : Prop := d.rest <:+ c.rest

theorem Follows.refl (c : Cursor) : Follows c c := List.suffix_refl _

theorem Follows.trans (c d e : Cursor) (hd : Follows d c) (he : Follows e d) : Follows e c :=
  List.IsSuffix.trans he hd

theorem follows_advance (c : Cursor) : Follows c.advance c := by
  unfold Follows advance
  split
  next h => exact List.suffix_refl _
  next ch rest h =>
    rw [h]
    dsimp only
    split
    · exact List.suffix_cons ch rest
    · split
      · exact List.suffix_cons ch rest
      · exact List.suffix_cons ch rest

theorem follows_advanceBy (k : Nat) (c : Cursor) : Follows (c.advanceBy k) c := by
  induction k generalizing c with
  | zero => exact .refl c
  | succ k ih => exact .trans _ _ _ (follows_advance c) (ih c.advance)

theorem follows_skipComment (c : Cursor) : Follows c.skipComment c := by
  unfold skipComment
  split
  · exact follows_advanceBy _ c
  · exact .refl c

theorem follows_takeBreak? (c d : Cursor) (b : Char) (h : c.takeBreak? = some (b, d)) :
    Follows d c := by
  unfold takeBreak? at h
  split at h
  · cases h
    exact follows_advanceBy 2 c
  · split at h
    · cases h
      exact follows_advance c
    · cases h
  · cases h

end Cursor

open Cursor

theorem follows_blankLines (n : Nat) (c : Cursor) : Follows (blankLines n c).2.2 c := by
  induction n generalizing c with
  | zero => exact .refl c
  | succ n ih =>
    rw [blankLines]
    split
    · exact .trans _ _ _ (follows_advance c) (ih _)
    · split
      next => exact .refl c
      next b d hbreak =>
        have hd := follows_takeBreak? c d b hbreak
        split
        · exact hd
        · exact .trans _ _ _ hd (ih d)

theorem follows_plainGap (c : Cursor) : Follows (plainGap c).after c := by
  have hspaces := follows_advanceBy (c.rest.takeWhile (· == ' ')).length c
  unfold plainGap
  simp only [takeWhile]
  split
  next => exact hspaces
  next b d hbreak =>
    have hd := Follows.trans _ _ _ hspaces (follows_takeBreak? _ d b hbreak)
    split
    · exact hd
    · exact .trans _ _ _ hd (follows_blankLines _ d)

theorem follows_plainFrom (flow : Bool) (indent : Int) (n : Nat) (gap : Gap) :
    Follows (plainFrom flow indent n gap).2.after gap.after := by
  induction n generalizing gap with
  | zero => exact .refl _
  | succ n ih =>
    rw [plainFrom]
    dsimp only
    split
    · exact .refl _
    · have hnext := Follows.trans _ _ _
        (follows_advanceBy (plainRun flow gap.after.rest).length gap.after) (follows_plainGap _)
      split
      · exact hnext
      · exact .trans _ _ _ hnext (ih _)

theorem follows_readPlain (flow : Bool) (indent : Int) (c : Cursor) :
    Follows (readPlain flow indent c).2.2 c :=
  follows_plainFrom flow indent (c.rest.length + 1) ⟨[], false, c⟩

/-- The tokens of a text without marks. -/
def Token.IsBare : Token → Prop
  | .scalar _ _ | .textEnd | .stop _ => True
  | _ => False

namespace Progress

/-- Progress in a blank text: no block and no bracket is open, and there were no marks. -/
structure Bare (p : Progress) : Prop where
  rest : ∀ c ∈ p.cursor.rest, isBlank c
  tokens : ∀ t ∈ p.tokens, t.IsBare
  indents : p.indents = []
  outer : p.outer = []

theorem Bare.moveTo (p : Progress) (h : p.Bare) (c : Cursor) (hc : Follows c p.cursor) :
    (p.moveTo c).Bare :=
  ⟨fun x hx => h.rest x (hc.subset hx), h.tokens, h.indents, h.outer⟩

theorem Bare.push (p : Progress) (h : p.Bare) (t : Token) (ht : t.IsBare) : (p.push t).Bare :=
  ⟨h.rest, List.forall_mem_cons.2 ⟨ht, h.tokens⟩, h.indents, h.outer⟩

theorem Bare.allowKey (p : Progress) (h : p.Bare) (allowed : Bool) : (p.allowKey allowed).Bare :=
  ⟨h.rest, h.tokens, h.indents, h.outer⟩

theorem Bare.withKey (p : Progress) (h : p.Bare) (key : Option PendingKey) :
    ({ p with key } : Progress).Bare := ⟨h.rest, h.tokens, h.indents, h.outer⟩

theorem Bare.skipGap (p : Progress) (h : p.Bare) (n : Nat) : (p.skipGap n).Bare := by
  induction n generalizing p with
  | zero => exact h
  | succ n ih =>
    have hgap : Follows p.cursor.skipSpaces.skipComment p.cursor :=
      .trans _ _ _ (follows_advanceBy _ p.cursor) (follows_skipComment _)
    rw [Progress.skipGap]
    split
    next b c hbreak =>
      exact ih _ ((h.moveTo p c (.trans _ _ _ hgap (follows_takeBreak? _ c b hbreak))).allowKey _ _)
    next => exact h.moveTo p _ hgap

theorem Bare.dropKey (p q : Progress) (h : p.Bare) (hq : p.dropKey = .ok q) : q.Bare := by
  obtain ⟨key, -, hkey⟩ := (bind_eq_ok_iff _ _ _).1 hq
  cases hkey
  exact h.withKey p key

theorem Bare.dropStale (p q : Progress) (h : p.Bare) (hq : p.dropStale = .ok q) : q.Bare := by
  obtain ⟨key, -, hkey⟩ := (bind_eq_ok_iff _ _ _).1 hq
  obtain ⟨outer, houter, hq⟩ := (bind_eq_ok_iff _ _ _).1 hkey
  rw [h.outer] at houter
  cases houter
  cases hq
  exact ⟨h.rest, h.tokens, h.indents, rfl⟩

/-- There are no blocks to close. -/
theorem Bare.closeBlocks (p : Progress) (h : p.Bare) (column : Int) :
    (p.closeBlocks column).Bare := by
  rw [Progress.closeBlocks]
  split
  · exact h
  · rw [h.indents]
    exact ⟨h.rest, h.tokens, rfl, h.outer⟩

theorem Bare.finish (p q : Progress) (h : p.Bare) (hq : p.finish = .ok q) : q.Bare := by
  obtain ⟨r, hr, hq⟩ := (bind_eq_ok_iff _ _ _).1 hq
  obtain ⟨t, ht, hr⟩ := (bind_eq_ok_iff _ _ _).1 hr
  cases hr
  cases hq
  exact (((h.closeBlocks p (-1)).dropKey _ t ht).allowKey t false).push _ .textEnd trivial

theorem Bare.saveKey (p q : Progress) (h : p.Bare) (hq : p.saveKey = .ok q) : q.Bare := by
  rw [Progress.saveKey] at hq
  split at hq
  · obtain ⟨r, hr, hq⟩ := (bind_eq_ok_iff _ _ _).1 hq
    cases hq
    exact (h.dropKey p r hr).withKey r _
  · cases hq
    exact h

theorem Bare.plain (p q : Progress) (h : p.Bare) (hq : p.plain = .ok q) : q.Bare := by
  obtain ⟨r, hr, hq⟩ := (bind_eq_ok_iff _ _ _).1 hq
  cases hq
  have hbare := h.saveKey p r hr
  exact ((hbare.allowKey r _).push _ (.scalar _ true) trivial).moveTo _ _
    (follows_readPlain _ _ r.cursor)

/-- A blank is no mark, so it begins a plain scalar or nothing. -/
theorem Bare.token (p q : Progress) (h : p.Bare) (hend : p.cursor.atEnd = false)
    (hq : p.token = .ok q) : q.Bare := by
  obtain ⟨ch, rest, hrest⟩ : ∃ ch rest, p.cursor.rest = ch :: rest :=
    List.exists_cons_of_ne_nil (by simpa [Cursor.atEnd] using hend)
  have hnext : p.cursor.next = ch := by rw [Cursor.next, hrest, List.headD_cons]
  have hblank : isBlank ch := h.rest ch (by simp [hrest])
  have hne (d : Char) (hd : isBlank d = false) : (p.cursor.next == d) = false := by
    rw [hnext, beq_eq_false_iff_ne]
    rintro rfl
    simp [hd] at hblank
  have hseparator : p.cursor.atSeparator = false := by
    unfold Cursor.atSeparator
    split
    next hmark => exact absurd (h.rest '-' (by simp [hmark])) (by decide)
    next hmark => exact absurd (h.rest '.' (by simp [hmark])) (by decide)
    next => rfl
  simp only [Progress.token, hseparator, hne '%' (by decide), hne '[' (by decide),
    hne '\x7b' (by decide), hne ']' (by decide), hne '\x7d' (by decide), hne ',' (by decide),
    hne '-' (by decide), hne '?' (by decide), hne ':' (by decide), hne '*' (by decide),
    hne '&' (by decide), hne '!' (by decide), hne '|' (by decide), hne '>' (by decide),
    hne '\'' (by decide), hne '"' (by decide), Bool.false_and, Bool.and_false, Bool.false_eq_true,
    if_false] at hq
  split at hq
  · exact h.plain p q hq
  · cases hq

theorem Bare.step (p q : Progress) (last : Bool) (h : p.Bare) (hq : p.step = .ok (q, last)) :
    q.Bare := by
  obtain ⟨r, hr, hq⟩ := (bind_eq_ok_iff _ _ _).1 hq
  have hbare := ((h.skipGap p _).dropStale _ r hr).closeBlocks r r.cursor.column
  dsimp only at hq
  split at hq
  · obtain ⟨t, ht, hq⟩ := (map_eq_ok_iff _ _ _).1 hq
    cases hq
    exact hbare.finish _ q ht
  next hend =>
    obtain ⟨t, ht, hq⟩ := (map_eq_ok_iff _ _ _).1 hq
    cases hq
    exact hbare.token _ q (by simpa using hend) ht

theorem Bare.stopped (p : Progress) (h : p.Bare) (stop : Stop) (n : Nat) :
    ∀ t ∈ p.tokens.reverse.take n ++ [.stop stop], t.IsBare := by
  intro t ht
  obtain ht | ht := List.mem_append.1 ht
  · exact h.tokens t (List.mem_reverse.1 (List.mem_of_mem_take ht))
  · obtain rfl := List.mem_singleton.1 ht
    trivial

theorem Bare.run (p : Progress) (h : p.Bare) (n : Nat) : ∀ t ∈ p.run n, t.IsBare := by
  induction n generalizing p with
  | zero => exact fun t ht => h.tokens t (List.mem_reverse.1 ht)
  | succ n ih =>
    rw [Progress.run]
    dsimp only
    split
    · exact h.stopped p _ _
    next q hq =>
      have hbare := h.dropStale p q hq
      split
      · exact h.stopped p _ _
      next r hr => exact fun t ht => (hbare.step q r true hr).tokens t (List.mem_reverse.1 ht)
      next r hr => exact ih r (hbare.step q r false hr)

end Progress

theorem bare_tokens (text : List Char) (h : ∀ c ∈ text, isBlank c) :
    ∀ t ∈ tokens text, t.IsBare := by
  unfold tokens
  split
  · have hstart : ({ cursor := Cursor.start text } : Progress).Bare := ⟨h, by simp, rfl, rfl⟩
    dsimp only
    split
    · exact (hstart.moveTo _ _ (follows_advance _)).run _ _
    · exact hstart.run _ _
  · simp [Token.IsBare]

namespace Node

/-- Only such tokens are left, and there is no node with parts. -/
structure Plain (s : Source) : Prop where
  tokens : ∀ t ∈ s.tokens, t.IsBare
  nodes : ∀ node ∈ s.nodes, node.tag.hasParts = false

theorem keeps_peek : Keeps Plain Token.IsBare peek := by
  refine .bind _ _ .get fun s hs => ?_
  split
  · exact .throw _
  next t _ _ htokens => exact .pure _ (hs.tokens t (by simp [htokens]))
  · exact .throw _

theorem keeps_pass : Keeps Plain (fun _ => True) pass :=
  .modify _ fun _ hs => ⟨fun t ht => hs.tokens t (List.mem_of_mem_drop ht), hs.nodes⟩

theorem hasParts_implied (cs : List Char) : (Tag.implied cs).hasParts = false := by
  have hforms : ∀ f ∈ Tag.forms, f.2.hasParts = false := by decide
  unfold Tag.implied
  dsimp only
  cases hfind : Tag.forms.find? _ with
  | none => rfl
  | some f => exact hforms f (List.mem_of_find?_eq_some hfind)

theorem keeps_add (tag : Tag) (content : Content) (h : tag.hasParts = false) :
    Keeps Plain (fun _ => True) (add tag content) := by
  refine .bind _ _ .get fun _ _ => .bind _ _ (.modify _ fun s hs => ⟨hs.tokens, ?_⟩) fun _ _ =>
    .pure _ trivial
  intro node hnode
  obtain hold | rfl := Array.mem_push.1 hnode
  · exact hs.nodes node hold
  · exact h

theorem keeps_addScalar (text : List CodePoint) (plain : Bool) :
    Keeps Plain (fun _ => True) (addScalar none none text plain) := by
  have htag : (scalarTag none text plain).hasParts = false := by
    change (if plain || false then Tag.implied (plainText text) else .text).hasParts = false
    split
    · exact hasParts_implied _
    · rfl
  have hnone : Keeps Plain (fun _ => True) (checkAnchor none) := .pure _ trivial
  exact .bind _ _ hnone fun _ _ => .bind _ _ (keeps_add _ _ htag) fun _ _ =>
    .bind _ _ (.pure (Q := fun _ => True) _ trivial) fun _ _ => .pure _ trivial

theorem keeps_properties : Keeps Plain (· = (none, none)) properties := by
  refine .bind _ _ keeps_peek fun t ht => ?_
  split
  · cases ht
  · cases ht
  · exact .pure _ rfl

theorem keeps_readDirectives (n : Nat) (versioned : Bool) (handles : List (String × String)) :
    Keeps Plain (fun _ => True) (readDirectives n versioned handles) := by
  cases n with
  | zero => exact .pure _ trivial
  | succ n =>
    refine .bind _ _ keeps_peek fun t ht => ?_
    split
    · cases ht
    · exact .pure _ trivial

theorem keeps_beginDocument : Keeps Plain (fun _ => True) beginDocument := by
  refine .bind _ _ .get fun s _ => .bind _ _ (keeps_readDirectives _ _ _) fun handles _ => ?_
  refine .bind _ _ (.modify _ fun s hs => ⟨hs.tokens, hs.nodes⟩) fun _ _ => ?_
  refine .bind _ _ keeps_peek fun t _ => ?_
  split
  · exact keeps_pass
  · exact .throw _

theorem keeps_endDocument : Keeps Plain (fun _ => True) endDocument := by
  refine .bind _ _ keeps_peek fun t _ => ?_
  refine .bind _ _ (.modify _ fun s hs => ⟨fun t ht => hs.tokens t ?_, hs.nodes⟩) fun _ _ => ?_
  · exact (List.dropWhile_suffix _).subset ht
  · refine .bind _ _ keeps_peek fun t _ => ?_
    split
    · exact .bind _ _ keeps_beginDocument fun _ _ => .throw _
    · exact .pure _ trivial

variable [Host]

theorem keeps_read (n depth : Nat) (place : Place) :
    Keeps Plain (fun _ => True) (read n depth place) := by
  cases n with
  | zero =>
    rw [read]
    exact .throw _
  | succ n =>
    rw [read]
    refine .bind _ _ keeps_peek fun t ht => ?_
    split
    · cases ht
    · refine .bind _ _ keeps_properties fun r hr => ?_
      subst hr
      refine .bind _ _ (.pure (Q := (· = none)) none rfl) fun tag htag => ?_
      subst htag
      refine .bind _ _ keeps_peek fun t ht => ?_
      have hne (mark : Token) (hmark : ¬ mark.IsBare) : (t == mark) = false := by
        rw [beq_eq_false_iff_ne]
        rintro rfl
        exact hmark ht
      split
      · exact .bind _ _ keeps_pass fun _ _ => keeps_addScalar _ _
      · cases ht
      · cases ht
      · simp only [hne .dash id, hne .blockSequence id, hne .blockMapping id, Bool.false_and,
          Bool.false_eq_true, if_false, Option.isSome_none, Bool.or_false]
        exact .throw _

theorem keeps_readDocument : Keeps Plain (fun _ => True) readDocument := by
  refine .bind _ _ .get fun s _ => .bind _ _ keeps_peek fun t ht => ?_
  have hroot : Keeps Plain (fun _ => True) (do
      let root ← read (4 * s.tokens.length) 0 .block
      endDocument
      pure (some root)) :=
    .bind _ _ (keeps_read _ _ _) fun _ _ => .bind _ _ keeps_endDocument fun _ _ => .pure _ trivial
  split
  · exact .pure _ trivial
  · cases ht
  · cases ht
  · exact hroot

end Node

variable [Host]

/-- The nodes of a blank text have no parts. -/
theorem plain_ofText (text : List Char) (h : ∀ c ∈ text, isBlank c) (root : Option NodeId)
    (g : Graph) (hg : Graph.ofText text = .ok (root, g)) :
    ∀ node ∈ g, node.tag.hasParts = false := by
  obtain ⟨⟨r, source⟩, hrun, hsource⟩ := (bind_eq_ok_iff _ _ _).1 hg
  cases hsource
  have hstart : Node.Plain ⟨tokens text, Node.standardHandles, [], #[]⟩ :=
    ⟨bare_tokens text h, by simp⟩
  exact (SatisfiesM_Except_eq.1 (Node.keeps_readDocument _ hstart) _ hrun).1.nodes

/-- No node has parts, and what nodes stand for are scalars. -/
structure Build.Plain (b : Building) : Prop where
  nodes : ∀ node ∈ b.graph, node.tag.hasParts = false
  met : Holding (fun part => ∃ s, part = Part.scalar s) b.met

theorem Build.keeps_partOf_plain (id : NodeId) :
    Keeps Plain (fun part => ∃ s, part = Part.scalar s) (partOf id) := by
  refine .bind _ _ .get fun b hb => ?_
  split
  next _ _ part hpart => exact .pure _ (hb.met id part (Option.join_eq_some_iff.1 hpart))
  · exact .throw _
  next node _ hnode =>
    rw [if_neg (by simp [hb.nodes node (Array.mem_of_getElem? hnode)])]
    exact .bind _ _ (keeps_scalarOf id node) fun s _ =>
      .bind _ _ (.modify _ fun b hb => ⟨hb.nodes, hb.met.set _ _ id _ ⟨s, rfl⟩⟩) fun _ _ =>
        .pure _ ⟨s, rfl⟩

/-- A node without parts stands for a scalar. -/
theorem exists_scalar_of_build (g : Graph) (root : NodeId) (part : Part)
    (bodies : Array (Option Body)) (hg : ∀ node ∈ g, node.tag.hasParts = false)
    (h : g.build root = .ok (part, bodies)) : ∃ s, part = .scalar s := by
  obtain ⟨⟨_, b⟩, hrun, hout⟩ := (bind_eq_ok_iff _ _ _).1 h
  cases hout
  obtain ⟨⟨_, c⟩, hpart, hrest⟩ := (bind_eq_ok_iff _ _ _).1 hrun
  obtain ⟨_, -, hlast⟩ := (bind_eq_ok_iff _ _ _).1 hrest
  cases hlast
  have hstart : Build.Plain ⟨g, Array.replicate g.size none, #[], Array.replicate g.size none⟩ :=
    ⟨hg, holding_replicate _ _⟩
  exact (SatisfiesM_Except_eq.1 (Build.keeps_partOf_plain root _ hstart) _ hpart).2

/-- What a blank text is read as is a scalar. -/
theorem exists_scalar_of_read (text : List Char) (v : Value) (h : ∀ c ∈ text, isBlank c)
    (hv : read text = .ok v) : ∃ s, v = .scalar s := by
  obtain ⟨⟨root, g⟩, hg, hv⟩ := (bind_eq_ok_iff _ _ _).1 hv
  cases root with
  | none =>
    cases hv
    exact ⟨.null, rfl⟩
  | some root =>
    obtain ⟨⟨part, bodies⟩, hbuild, hv⟩ := (bind_eq_ok_iff _ _ _).1 hv
    obtain ⟨s, rfl⟩ := exists_scalar_of_build g root part bodies (plain_ofText text h _ g hg) hbuild
    cases hv
    exact ⟨s, rfl⟩

end DotPath.Yaml

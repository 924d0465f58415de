import DotPath.Problem

set_option autoImplicit false

/-!
Segments of a path: a key of word characters, with the index of an element after a `#`. A raw
segment is cut into pieces, words with their index and single characters of noise; the last word
is the segment. `text_scan` says that the cut loses nothing.
-/

namespace DotPath

open Number Text

structure Segment where
  key : String
  index : Option Int
  deriving DecidableEq, Repr

/-- A letter or digit of ASCII, or the underscore. -/
def isWordChar (c : Char) : Bool := c.isAlphanum || c == '_'

namespace Segment

/-- A piece of a raw segment: a word, its `#` if one follows, and the digits right after that; or
a character between words. -/
inductive Piece where
  | word (key : List Char) (sharp : Bool) (index : List Char)
  | noise (c : Char)
  deriving DecidableEq, Repr

def Piece.text : Piece → List Char
  | word key sharp index => key ++ (if sharp then ['#'] else []) ++ index
  | noise c => [c]

theorem length_dropWhile_le {α : Type} (p : α → Bool) (xs : List α) :
    (xs.dropWhile p).length ≤ xs.length := by
  induction xs with
  | nil => simp
  | cons x xs ih =>
    by_cases h : p x
    · simp [h]; omega
    · simp [h]

/-- Cuts a raw segment into pieces, each word as long as possible. -/
def scan : List Char → List Piece
  | [] => []
  | c :: cs =>
    if isWordChar c then
      let key := c :: cs.takeWhile isWordChar
      match _h : cs.dropWhile isWordChar with
      | '#' :: rest =>
        .word key true (rest.takeWhile isAsciiDigit) :: scan (rest.dropWhile isAsciiDigit)
      | rest => .word key false [] :: scan rest
    else .noise c :: scan cs
termination_by cs => cs.length
decreasing_by
  · have h₁ := length_dropWhile_le isWordChar cs
    have h₂ := length_dropWhile_le isAsciiDigit rest
    rw [_h] at h₁
    simp only [List.length_cons] at *
    omega
  · have h₁ := length_dropWhile_le isWordChar cs
    simp only [List.length_cons] at *
    rw [_h] at h₁
    omega
  · simp

theorem text_scan (cs : List Char) : (scan cs).flatMap Piece.text = cs := by
  fun_induction scan cs with
  | case1 => rfl
  | case2 c cs hc key rest h ih =>
    have ht := List.takeWhile_append_dropWhile (p := isWordChar) (l := cs)
    have hd := List.takeWhile_append_dropWhile (p := isAsciiDigit) (l := rest)
    rw [h] at ht
    simp only [List.flatMap_cons, ih, Piece.text, key]
    simp [hd, ht]
  | case3 c cs hc key hr ih =>
    simp only [List.flatMap_cons, ih, Piece.text, key]
    simp
  | case4 c cs hc ih => simp [Piece.text, ih]

/-- The word of a piece with the digits of its index. -/
def Piece.word? : Piece → Option (List Char × List Char)
  | word key _ index => some (key, index)
  | noise _ => none

/-- The last word of a raw segment with the digits of its index. -/
def lastWord? (cs : List Char) : Option (List Char × List Char) :=
  ((scan cs).filterMap Piece.word?).getLast?

/-- The index that digits stand for; no digits are no index. -/
def readIndex (ds : List Char) : Except Failure (Option Int) :=
  if ds.isEmpty then .ok none
  else
    match readInteger 10 (codePoints ds) with
    | .ok i => .ok (some i)
    | .error fault => .error (.crash (.numeral fault))

/-- Reads a raw segment: its last word counts, with the digits after the word's `#`. -/
def parse (raw : String) : Except Failure Segment :=
  match lastWord? raw.toList with
  | none => .error (Problem.invalidSegment raw).failure
  | some (key, ds) => (fun index => ⟨String.ofList key, index⟩) <$> readIndex ds

/-- The plainest raw form of a segment. -/
def render (s : Segment) : String :=
  match s.index with
  | none => s.key
  | some i => s.key ++ "#" ++ String.ofList (decimal i)

end Segment

end DotPath

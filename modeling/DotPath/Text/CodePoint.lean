import DotPath.Text.Surrogate

set_option autoImplicit false

/-!
Texts as code points. A proper text is made of characters; a *ragged* one has halves of surrogate
pairs that stand alone, which are no characters. `characters?_codePoints` says that nothing is lost
of a proper text.
-/

namespace DotPath.Text

/-- A character, or one half of a surrogate pair that stands alone. -/
inductive CodePoint where
  | char (c : Char)
  | half (n : Nat)
  deriving DecidableEq, Repr, Inhabited

namespace CodePoint

def ofNat (n : Nat) : CodePoint := if isSurrogate n then half n else char (Char.ofNat n)

/-- Is the code point a character of the given class? -/
def is (holds : Char → Bool) : CodePoint → Bool
  | char c => holds c
  | half _ => false

def char? : CodePoint → Option Char
  | char c => some c
  | half _ => none

/-- The character; the replacement character stands for a half. -/
def toChar : CodePoint → Char
  | char c => c
  | half _ => '\ufffd'

end CodePoint

/-- The code points of a proper text. -/
def codePoints (cs : List Char) : List CodePoint := cs.map .char

/-- The characters of a text, if it is a proper one. -/
def characters? (ps : List CodePoint) : Option (List Char) := ps.mapM CodePoint.char?

/-- The text in characters alone, halves replaced. -/
def plainText (ps : List CodePoint) : List Char := ps.map CodePoint.toChar

@[simp] theorem codePoints_nil : codePoints [] = [] := rfl

@[simp] theorem codePoints_cons (c : Char) (cs : List Char) :
    codePoints (c :: cs) = .char c :: codePoints cs := rfl

@[simp] theorem characters?_codePoints (cs : List Char) :
    characters? (codePoints cs) = some cs := by
  induction cs with
  | nil => rfl
  | cons c cs ih => simp_all [characters?, codePoints, CodePoint.char?]

@[simp] theorem plainText_codePoints (cs : List Char) : plainText (codePoints cs) = cs := by
  induction cs with
  | nil => rfl
  | cons c cs ih => simp_all [plainText, codePoints, CodePoint.toChar]

end DotPath.Text

import DotPath.Text.CharSet

set_option autoImplicit false

/-!
Blank characters: the white space of Unicode together with the four information separators
`U+001C` to `U+001F`, and the trimming of a text at both ends.
-/

namespace DotPath.Text

/-- The blank characters. -/
def blank : CharSet := ⟨[
    (0x9, 0xd), (0x1c, 0x20), (0x85, 0x85), (0xa0, 0xa0), (0x1680, 0x1680), (0x2000, 0x200a),
    (0x2028, 0x2029), (0x202f, 0x202f), (0x205f, 0x205f), (0x3000, 0x3000)]⟩

def isBlank (c : Char) : Bool := blank.contains c

def trimLeft (cs : List Char) : List Char := cs.dropWhile isBlank

def trimRight (cs : List Char) : List Char := (cs.reverse.dropWhile isBlank).reverse

/-- The text without the blanks at its two ends. -/
def trim (cs : List Char) : List Char := trimRight (trimLeft cs)

end DotPath.Text

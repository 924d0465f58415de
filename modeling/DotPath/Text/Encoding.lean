import DotPath.Text.Utf8
import DotPath.Text.Utf32

set_option autoImplicit false

/-!
The character encoding of a document, found from its first octets: a byte order mark, or else the
pattern of zero octets that its first two characters leave, both of them being ASCII.
-/

namespace DotPath.Text

/-- `marked` says that the octets begin with a byte order mark. -/
inductive Encoding where
  | utf8 (marked : Bool)
  | utf16 (order : ByteOrder) (marked : Bool)
  | utf32 (order : ByteOrder) (marked : Bool)
  deriving DecidableEq, Repr

namespace Encoding

def utf8Mark : List UInt8 := [0xef, 0xbb, 0xbf]

def mark : Char := '\ufeff'

/-- The encoding that the pattern of zero octets tells. -/
def ofZeros : List UInt8 → Encoding
  | [a, b] => if a = 0 then .utf16 .big false else if b = 0 then .utf16 .little false
    else .utf8 false
  | a :: b :: c :: d :: _ =>
    if a = 0 then if b = 0 then .utf32 .big false else .utf16 .big false
    else if b = 0 then
      if c = 0 ∧ d = 0 then .utf32 .little false else .utf16 .little false
    else .utf8 false
  | _ => .utf8 false

/-- The longer marks come first, since one of them begins with a shorter one. -/
def detect (bs : List UInt8) : Encoding :=
  if [0x00, 0x00, 0xfe, 0xff].isPrefixOf bs then .utf32 .big true
  else if [0xff, 0xfe, 0x00, 0x00].isPrefixOf bs then .utf32 .little true
  else if [0xfe, 0xff].isPrefixOf bs then .utf16 .big true
  else if [0xff, 0xfe].isPrefixOf bs then .utf16 .little true
  else if utf8Mark.isPrefixOf bs then .utf8 true
  else ofZeros bs

/-- Reads a document. Positions count from its first octet, but in marked UTF-8 from the end of
the mark. -/
def decode : Encoding → List UInt8 → Except DecodeFault (List CodePoint)
  | utf8 marked, bs => Utf8.decodeFrom true none 0 (if marked then bs.drop 3 else bs)
  | utf16 order marked, bs =>
    if marked then Utf16.decode order 2 (bs.drop 2) else Utf16.decode order 0 bs
  | utf32 order marked, bs =>
    if marked then Utf32.decode order 4 (bs.drop 4) else Utf32.decode order 0 bs

def encode (e : Encoding) (cs : List Char) : List UInt8 :=
  match e with
  | utf8 marked => Utf8.encode (if marked then mark :: cs else cs)
  | utf16 order marked => Utf16.encode order (if marked then mark :: cs else cs)
  | utf32 order marked => Utf32.encode order (if marked then mark :: cs else cs)

end Encoding

/-- The text of a document in whatever encoding its octets tell. -/
def decodeDocument (bs : List UInt8) : Except DecodeFault (List CodePoint) :=
  (Encoding.detect bs).decode bs

end DotPath.Text

import DotPath.Text.Blank
import DotPath.Text.Digit
import DotPath.Text.Quoted

set_option autoImplicit false

/-!
Whole numbers as text. A numeral may have blanks around it, a sign, the mark of its base and
digits of any script; a decimal numeral of more than `digitLimit` digits is refused unread.
-/

namespace DotPath.Number

open DotPath.Text

/-- The most digits that a decimal numeral may have. -/
def digitLimit : Nat := 4300

inductive NumeralFault where
  | tooLong (digits : Nat)
  | malformed (base : Nat) (text : List CodePoint)
  deriving DecidableEq, Repr

/-- The decimal digits of a natural number. -/
def digits (n : Nat) : List Char := Nat.toDigits 10 n

/-- The decimal numeral of a whole number. -/
def decimal (n : Int) : List Char :=
  if n < 0 then '-' :: digits n.natAbs else digits n.natAbs

/-- Has the number more decimal digits than a numeral may have? -/
def exceedsLimit (n : Int) : Bool := Nat.pow 10 digitLimit ≤ n.natAbs

/-- The value of digits in the given base; a character that is no digit counts as zero. -/
def ofDigits (base : Nat) (cs : List Char) : Nat :=
  cs.foldl (fun n c => n * base + (letterValue? c).getD 0) 0

/-- Outside ASCII a numeral may use the digits and blanks of any script. -/
def plainNumeralChar (c : Char) : Char :=
  if c.toNat < 0x80 then c
  else if isBlank c then ' '
  else match decimalValue? c with
    | some d => hexDigit d
    | none => c

/-- The characters of a numeral in plain form. -/
def plainNumeral (text : List CodePoint) : List Char := (plainText text).map plainNumeralChar

def isNumeralBlank (c : Char) : Bool := c == ' ' || ('\t' ≤ c && c ≤ '\r')

def isDigitOf (base : Nat) (c : Char) : Bool :=
  match letterValue? c with
  | some d => d < base
  | none => false

/-- Splits a sign off a numeral. -/
def splitSign : List Char → Bool × List Char
  | '-' :: cs => (true, cs)
  | '+' :: cs => (false, cs)
  | cs => (false, cs)

/-- The letter that marks a base after a leading zero. -/
def baseMark : Nat → Option Char
  | 2 => some 'b'
  | 8 => some 'o'
  | 16 => some 'x'
  | _ => none

def dropBaseMark (base : Nat) : List Char → List Char
  | '0' :: c :: cs => if baseMark base == some c.toLower then cs else '0' :: c :: cs
  | cs => cs

/-- The first number that a word of 64 bits with a sign cannot hold. -/
def wordLimit : Int := 0x8000000000000000

def fitsWord (n : Int) : Bool := -wordLimit ≤ n && n < wordLimit

def negateIf (negative : Bool) (n : Nat) : Int := if negative then -n else n

/-- The whole number that a numeral of the given base stands for. -/
def readInteger (base : Nat) (text : List CodePoint) : Except NumeralFault Int :=
  let plain := (plainNumeral text).dropWhile isNumeralBlank
  let (negative, unsigned) := splitSign plain
  let (ds, rest) := (dropBaseMark base unsigned).span (isDigitOf base)
  if base == 10 && digitLimit < ds.length then .error (.tooLong ds.length)
  else if ds.isEmpty || !rest.all isNumeralBlank then .error (.malformed base text)
  else .ok (negateIf negative (ofDigits base ds))

/-- The advice at the end of every message about the digit limit. -/
def limitAdvice : String := "use sys.set_int_max_str_digits() to increase the limit"

def NumeralFault.message : NumeralFault → String
  | tooLong n =>
    s!"Exceeds the limit ({digitLimit} digits) for integer string conversion: " ++
      s!"value has {n} digits; {limitAdvice}"
  | malformed base text =>
    s!"invalid literal for int() with base {base}: " ++ String.ofList ((quotedPoints text).take 200)

/-- Said of a number that is too long to be written. -/
def tooLongToWrite : String :=
  s!"Exceeds the limit ({digitLimit} digits) for integer string conversion; {limitAdvice}"

end DotPath.Number

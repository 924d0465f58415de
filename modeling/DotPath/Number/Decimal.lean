import DotPath.Number.Binary64
import DotPath.Number.Integer

set_option autoImplicit false

/-!
Floating-point numbers as decimal text. Writing chooses the fewest digits that read back as the
same number, and of those the nearest to it; a `Layout` says how the digits are set.
-/

namespace DotPath.Number

open DotPath.Text

/-- The digits `0.d₁d₂… * 10 ^ point`. -/
structure Digits where
  digits : List Char
  point : Int
  deriving DecidableEq, Repr

/-- The count of zeros between the point and the first digit of `num / den < 1`. -/
def leadingZeros : Nat → Nat → Nat → Nat
  | 0, _, _ => 0
  | fuel + 1, num, den =>
    if den ≤ num * 10 then 0 else leadingZeros fuel (num * 10) den + 1

/-- The `p` with `10 ^ (p - 1) ≤ num / den < 10 ^ p`. -/
def magnitude (num den : Nat) : Int :=
  if den ≤ num then (digits (num / den)).length else -(leadingZeros 400 num den : Nat)

/-- A fraction with the ends of the interval of numbers that round to it, over one denominator. -/
structure Interval where
  low : Nat
  middle : Nat
  high : Nat
  denominator : Nat
  endsIncluded : Bool

/-- The numbers that round to `m * 2 ^ e`. Below a power of two the neighbours lie closer. -/
def Interval.around (m : Nat) (e : Int) : Interval :=
  let closer := m = Nat.pow 2 52 ∧ Binary64.minExponent < e
  let unit := e - 2
  let k := Nat.pow 2 unit.toNat
  { low := (4 * m - if closer then 1 else 2) * k
    middle := 4 * m * k
    high := (4 * m + 2) * k
    denominator := Nat.pow 2 (-unit).toNat
    endsIncluded := m % 2 = 0 }

/-- The interval measured in units of `10 ^ k`. -/
def Interval.inUnits (i : Interval) (k : Int) : Interval :=
  let up := Nat.pow 10 (-k).toNat
  { i with
    low := i.low * up
    middle := i.middle * up
    high := i.high * up
    denominator := i.denominator * Nat.pow 10 k.toNat }

def Interval.contains (i : Interval) (n : Nat) : Bool :=
  let x := n * i.denominator
  if i.endsIncluded then i.low ≤ x && x ≤ i.high else i.low < x && x < i.high

/-- The whole number in the interval nearest to its middle, a tie going to the even one. -/
def Interval.nearest? (i : Interval) : Option Nat :=
  let below := i.middle / i.denominator
  let above := below + 1
  match i.contains below && below != 0, i.contains above with
  | true, true => some (roundDiv i.middle i.denominator)
  | true, false => some below
  | false, true => some above
  | false, false => none

/-- The shortest decimal in the interval with at least `count` digits, of which `fuel` more than
that are allowed. -/
def shortestFrom (i : Interval) (size : Int) : Nat → Nat → Nat × Int
  | 0, count => (i.middle / i.denominator, size - count)
  | fuel + 1, count =>
    match (i.inUnits (size - count)).nearest? with
    | some n => (n, size - count)
    | none => shortestFrom i size fuel (count + 1)

/-- The fewest digits that read back as `m * 2 ^ e`. -/
def shortest (m : Nat) (e : Int) : Digits :=
  let i := Interval.around m e
  let (n, k) := shortestFrom i (magnitude i.middle i.denominator) 17 1
  let ds := digits n
  { digits := (ds.reverse.dropWhile (· == '0')).reverse, point := k + ds.length }

/-- How a floating-point number is set: exponents in `[lowest, highest)` are written without a
power of ten, and a power of ten has at least two digits. -/
structure Layout where
  nan : String
  infinity : String
  lowest : Int := -4
  highest : Int := 16

def exponentText (n : Int) : List Char :=
  let ds := digits n.natAbs
  'e' :: (if n < 0 then '-' else '+') :: (if ds.length < 2 then '0' :: ds else ds)

def Layout.setDigits (l : Layout) (d : Digits) : List Char :=
  let exponent := d.point - 1
  if exponent < l.lowest ∨ l.highest ≤ exponent then
    match d.digits with
    | [] => []
    | [c] => c :: exponentText exponent
    | c :: cs => c :: '.' :: cs ++ exponentText exponent
  else if d.point ≤ 0 then '0' :: '.' :: List.replicate (-d.point).toNat '0' ++ d.digits
  else
    let whole := d.point.toNat
    if d.digits.length ≤ whole then
      d.digits ++ List.replicate (whole - d.digits.length) '0' ++ ['.', '0']
    else d.digits.take whole ++ '.' :: d.digits.drop whole

def Layout.text (l : Layout) : Binary64 → List Char
  | .nan _ => l.nan.toList
  | .infinity s => (if s then ['-'] else []) ++ l.infinity.toList
  | .finite s m e =>
    (if s then ['-'] else []) ++ if m = 0 then ['0', '.', '0'] else l.setDigits (shortest m e)

/-- An unsigned decimal: whole part, fraction and exponent, with a digit before or after the
point. -/
def readUnsigned? (negative : Bool) (cs : List Char) : Option Binary64 :=
  let (whole, rest) := cs.span isAsciiDigit
  let (fraction, rest) :=
    match rest with
    | '.' :: rest => rest.span isAsciiDigit
    | _ => ([], rest)
  let significand := ofDigits 10 (whole ++ fraction)
  let finish (exponent : Int) := some (.ofDecimal negative significand (exponent - fraction.length))
  if whole.isEmpty && fraction.isEmpty then none
  else
    match rest with
    | [] => finish 0
    | c :: rest =>
      let (below, ds) := splitSign rest
      if (c == 'e' || c == 'E') && !ds.isEmpty && ds.all isAsciiDigit then
        finish (negateIf below (ofDigits 10 ds))
      else none

/-- The number that a decimal text stands for; the words for infinity and for no number are read
in any case. -/
def readFloat? (text : List CodePoint) : Option Binary64 :=
  let plain := (plainNumeral text).dropWhile isNumeralBlank
  let (negative, unsigned) := splitSign (plain.reverse.dropWhile isNumeralBlank).reverse
  let word := String.ofList (unsigned.map Char.toLower)
  if word == "inf" || word == "infinity" then some (.infinity negative)
  else if word == "nan" then some (.nan 0)
  else readUnsigned? negative unsigned

end DotPath.Number

set_option autoImplicit false

/-!
Binary floating-point numbers of 53 bits, computed exactly: every result is the exact rational
result rounded once, a half going to the even neighbour.
-/

namespace DotPath.Number

/-- `finite s m e` is `m * 2 ^ e`, negative if `s`. Numbers built here keep `m < 2 ^ 53`,
`-1074 ≤ e ≤ 971`, and `2 ^ 52 ≤ m` unless `e = -1074`. What is not a number carries a payload,
zero for the one that is known by its name. -/
inductive Binary64 where
  | nan (payload : Nat)
  | infinity (negative : Bool)
  | finite (negative : Bool) (significand : Nat) (exponent : Int)
  deriving DecidableEq, Repr, Inhabited

/-- The quotient rounded to the nearest natural number, a half to the even one. -/
def roundDiv (num den : Nat) : Nat :=
  let q := num / den
  let r := num % den
  if den < 2 * r ∨ (den = 2 * r ∧ q % 2 = 1) then q + 1 else q

namespace Binary64

def minExponent : Int := -1074

def maxExponent : Int := 971

/-- Numerator and denominator of `num / den / 2 ^ e`. -/
def unscale (num den : Nat) (e : Int) : Nat × Nat :=
  if 0 ≤ e then (num, den * Nat.pow 2 e.toNat) else (num * Nat.pow 2 (-e).toNat, den)

def zero (negative : Bool) : Binary64 := finite negative 0 minExponent

/-- The exponent at which the integral part of `num / den` has 53 bits, or the least one. -/
def exponentOf (num den : Nat) : Int :=
  let guess : Int := (num.log2 : Int) - den.log2 - 52
  let scaled := unscale num den guess
  max minExponent (if scaled.1 / scaled.2 < Nat.pow 2 52 then guess - 1 else guess)

/-- The number nearest to `num / den`. -/
def ofQuotient (negative : Bool) (num den : Nat) : Binary64 :=
  if num = 0 then zero negative
  else
    let e := exponentOf num den
    let scaled := unscale num den e
    let m := roundDiv scaled.1 scaled.2
    let e' := if m = Nat.pow 2 53 then e + 1 else e
    if maxExponent < e' then infinity negative
    else finite negative (if m = Nat.pow 2 53 then Nat.pow 2 52 else m) e'

/-- The number nearest to `significand * 10 ^ exponent`. -/
def ofDecimal (negative : Bool) (significand : Nat) (exponent : Int) : Binary64 :=
  let size := exponent + (Nat.toDigits 10 significand).length
  if significand = 0 ∨ size < -400 then zero negative
  else if 400 < size then infinity negative
  else if 0 ≤ exponent then ofQuotient negative (significand * Nat.pow 10 exponent.toNat) 1
  else ofQuotient negative significand (Nat.pow 10 (-exponent).toNat)

def ofInt (n : Int) : Binary64 := ofQuotient (n < 0) n.natAbs 1

/-- The whole number of the same value, if there is one. -/
def toInt? : Binary64 → Option Int
  | finite negative m e =>
    let signed (n : Nat) : Int := if negative then -n else n
    if 0 ≤ e then some (signed (m * Nat.pow 2 e.toNat))
    else if m % Nat.pow 2 (-e).toNat = 0 then some (signed (m / Nat.pow 2 (-e).toNat))
    else none
  | _ => none

def neg : Binary64 → Binary64
  | nan payload => nan payload
  | infinity s => infinity !s
  | finite s m e => finite (!s) m e

/-- The number; what is not one gets the payload. -/
def withPayload (payload : Nat) : Binary64 → Binary64
  | nan _ => nan payload
  | x => x

def mul : Binary64 → Binary64 → Binary64
  | finite s m e, finite t n f =>
    let k := e + f
    if 0 ≤ k then ofQuotient (s != t) (m * n * Nat.pow 2 k.toNat) 1
    else ofQuotient (s != t) (m * n) (Nat.pow 2 (-k).toNat)
  | infinity s, infinity t => infinity (s != t)
  | infinity s, finite t m _ => if m = 0 then nan 0 else infinity (s != t)
  | finite s m _, infinity t => if m = 0 then nan 0 else infinity (s != t)
  | _, _ => nan 0

/-- A finite number as a multiple of the least power of two. -/
def steps (negative : Bool) (m : Nat) (e : Int) : Int :=
  let n : Int := (m * Nat.pow 2 (e - minExponent).toNat : Nat)
  if negative then -n else n

def add : Binary64 → Binary64 → Binary64
  | finite s m e, finite t n f =>
    let sum := steps s m e + steps t n f
    let negative := if sum = 0 then s && t else sum < 0
    ofQuotient negative sum.natAbs (Nat.pow 2 (-minExponent).toNat)
  | infinity s, infinity t => if s == t then infinity s else nan 0
  | infinity s, finite _ _ _ => infinity s
  | finite _ _ _, infinity t => infinity t
  | _, _ => nan 0

end Binary64

end DotPath.Number

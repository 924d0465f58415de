import DotPath.Calendar
import DotPath.Scalar
import DotPath.Text.Digit

set_option autoImplicit false

/-!
Timestamps: a date alone, or a date and a time with an optional fraction of the second and an
optional zone. Of the fraction the first six digits count.
-/

namespace DotPath.Yaml.Timestamp

open Number Text

abbrev Reader (α : Type) := List Char → Option (α × List Char)

/-- A number of at least `least` and at most `most` digits, as many as there are. -/
def number (least most : Nat) : Reader Nat := fun cs =>
  let ds := (cs.take most).takeWhile isAsciiDigit
  if ds.length < least then none else some (ofDigits 10 ds, cs.drop ds.length)

def mark (c : Char) : Reader Unit
  | d :: cs => if d = c then some ((), cs) else none
  | [] => none

def isGap (c : Char) : Bool := c == ' ' || c == '\t'

/-- What separates date and time. -/
def separator (cs : List Char) : Option (List Char) :=
  match cs with
  | 'T' :: rest | 't' :: rest => some rest
  | c :: _ => if isGap c then some (cs.dropWhile isGap) else none
  | [] => none

/-- The microseconds after a point. -/
def fraction : Reader Nat
  | '.' :: cs =>
    let (ds, rest) := cs.span isAsciiDigit
    let six := ds.take 6
    some (ofDigits 10 six * Nat.pow 10 (6 - six.length), rest)
  | cs => some (0, cs)

/-- The minutes of a zone after its hours, or none. -/
def zoneMinutes : Reader Nat
  | ':' :: cs => number 2 2 cs
  | cs => some (0, cs)

/-- A zone in minutes from universal time. -/
def zone (cs : List Char) : Option (Option Int × List Char) :=
  match cs.dropWhile isGap with
  | 'Z' :: rest => some (some 0, rest)
  | c :: rest =>
    if c = '+' ∨ c = '-' then do
      let (hours, rest) ← number 1 2 rest
      let (minutes, rest) ← zoneMinutes rest
      pure (some (negateIf (c = '-') (hours * 60 + minutes)), rest)
    else some (none, cs)
  | [] => some (none, cs)

/-- The numbers of a timestamp, those of the time only where there is one. -/
structure Parts where
  year : Nat
  month : Nat
  day : Nat
  time : Option (Nat × Nat × Nat × Nat × Option Int)

def time : Reader (Nat × Nat × Nat × Nat × Option Int) := fun cs => do
  let (hour, cs) ← number 1 2 cs
  let (_, cs) ← mark ':' cs
  let (minute, cs) ← number 2 2 cs
  let (_, cs) ← mark ':' cs
  let (second, cs) ← number 2 2 cs
  let (microsecond, cs) ← fraction cs
  let (zone, cs) ← zone cs
  pure ((hour, minute, second, microsecond, zone), cs)

/-- Does the text end here? A break at the end does not count. -/
def atEnd (cs : List Char) : Bool := cs == [] || cs == ['\n']

def parts (cs : List Char) : Option Parts := do
  let (year, cs) ← number 4 4 cs
  let (_, cs) ← mark '-' cs
  let (month, cs) ← number 1 2 cs
  let (_, cs) ← mark '-' cs
  let (day, cs) ← number 1 2 cs
  if atEnd cs then pure ⟨year, month, day, none⟩
  else
    let (t, cs) ← time (← separator cs)
    if atEnd cs then pure ⟨year, month, day, some t⟩ else none

/-- The date or moment that the numbers name; a zone is checked first. -/
def Parts.value (p : Parts) : Except CalendarFault Scalar := do
  match p.time with
  | none => .date <$> Date.ofNumbers p.year p.month p.day
  | some (hour, minute, second, microsecond, zone) => do
    let zone ← zone.mapM Moment.zoneOf
    .moment <$> Moment.ofNumbers p.year p.month p.day hour minute second microsecond zone

end DotPath.Yaml.Timestamp

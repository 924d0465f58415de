import DotPath.Number.Integer

set_option autoImplicit false

/-!
Dates and moments of the Gregorian calendar, years 1 to 9999. A moment may carry the distance of
its clock from universal time.
-/

namespace DotPath

open Number (digits)

structure Date where
  year : Nat
  month : Nat
  day : Nat
  deriving DecidableEq, Repr, Inhabited

/-- `zone` is the distance from universal time in minutes, where it is known. -/
structure Moment where
  date : Date
  hour : Nat
  minute : Nat
  second : Nat
  microsecond : Nat
  zone : Option Int
  deriving DecidableEq, Repr, Inhabited

/-- Why numbers are no date, moment or zone. -/
inductive CalendarFault where
  | year (year : Nat)
  | month
  | day
  | hour
  | minute
  | second
  | zone (minutes : Int)
  deriving DecidableEq, Repr

namespace Date

def isLeap (year : Nat) : Bool := year % 4 = 0 && (year % 100 != 0 || year % 400 = 0)

def daysInMonth (year month : Nat) : Nat :=
  if month = 2 then (if isLeap year then 29 else 28)
  else if month = 4 ∨ month = 6 ∨ month = 9 ∨ month = 11 then 30
  else 31

/-- The date of the given numbers, year first among the reasons for refusal. -/
def ofNumbers (year month day : Nat) : Except CalendarFault Date :=
  if year < 1 ∨ 9999 < year then .error (.year year)
  else if month < 1 ∨ 12 < month then .error .month
  else if day < 1 ∨ daysInMonth year month < day then .error .day
  else .ok ⟨year, month, day⟩

/-- The days before the first of January of a year. -/
def daysBeforeYear (year : Nat) : Nat :=
  let y := year - 1
  y * 365 + y / 4 - y / 100 + y / 400

/-- The number of the day, the first day of year 1 being the first. -/
def ordinal (d : Date) : Nat :=
  let months := List.range (d.month - 1)
  months.foldl (fun n m => n + daysInMonth d.year (m + 1)) (daysBeforeYear d.year + d.day)

end Date

/-- The digits of a number, padded with zeros. -/
def padded (width n : Nat) : List Char :=
  let ds := digits n
  List.replicate (width - ds.length) '0' ++ ds

/-- Year, month and day with hyphens between them. -/
def Date.text (d : Date) : List Char :=
  padded 4 d.year ++ '-' :: padded 2 d.month ++ '-' :: padded 2 d.day

namespace Moment

def ofNumbers (year month day hour minute second microsecond : Nat) (zone : Option Int) :
    Except CalendarFault Moment := do
  let date ← Date.ofNumbers year month day
  if 23 < hour then .error .hour
  else if 59 < minute then .error .minute
  else if 59 < second then .error .second
  else .ok { date, hour, minute, second, microsecond, zone }

/-- A zone lies less than a day from universal time. -/
def zoneOf (minutes : Int) : Except CalendarFault Int :=
  if minutes.natAbs < 24 * 60 then .ok minutes else .error (.zone minutes)

/-- Sign, hours and minutes of a zone. -/
def zoneText (minutes : Int) : List Char :=
  (if minutes < 0 then '-' else '+') :: padded 2 (minutes.natAbs / 60) ++
    ':' :: padded 2 (minutes.natAbs % 60)

/-- Date and time with a blank between them; the fraction stands only if there is one. -/
def text (t : Moment) : List Char :=
  t.date.text ++ ' ' :: padded 2 t.hour ++ ':' :: padded 2 t.minute ++ ':' :: padded 2 t.second ++
    (if t.microsecond = 0 then [] else '.' :: padded 6 t.microsecond) ++
    (t.zone.map zoneText).getD []

/-- Microseconds since the beginning of the calendar, by universal time where the zone is known. -/
def instant (t : Moment) : Int :=
  let minutes : Int := (t.date.ordinal * 24 + t.hour : Nat) * 60 + t.minute - t.zone.getD 0
  (minutes * 60 + t.second) * 1000000 + t.microsecond

end Moment

end DotPath

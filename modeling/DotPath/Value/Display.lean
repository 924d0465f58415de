import DotPath.Host
import DotPath.Value

set_option autoImplicit false

/-!
Values as text. A value is *shown* in a form that tells its kind, texts in quotes; its *text* is
the same but for texts, dates and moments themselves, which stand as they are. Sets are shown in the
order in which the machine keeps them.
-/

namespace DotPath

open Number Text

/-- The parts with a comma and a blank between them. -/
def commaSeparated : List (List Char) → List Char := [',', ' '].intercalate

namespace CalendarFault

/-- A length of time in days and seconds, those that are not zero. -/
def shownSpan (minutes : Int) : List Char :=
  let days := minutes / (24 * 60)
  let seconds := minutes % (24 * 60) * 60
  let parts :=
    (if days = 0 then [] else ["days=".toList ++ decimal days]) ++
      (if seconds = 0 then [] else ["seconds=".toList ++ decimal seconds])
  "datetime.timedelta(".toList ++ (if parts.isEmpty then ['0'] else commaSeparated parts) ++ [')']

def message : CalendarFault → String
  | year y => s!"year {y} is out of range"
  | month => "month must be in 1..12"
  | day => "day is out of range for month"
  | hour => "hour must be in 0..23"
  | minute => "minute must be in 0..59"
  | second => "second must be in 0..59"
  | zone minutes =>
    "offset must be a timedelta strictly between -timedelta(hours=24) and timedelta(hours=24), not "
      ++ String.ofList (shownSpan minutes) ++ "."

end CalendarFault

/-- The zone of a moment: universal time, or the distance from it. -/
def shownZone (minutes : Int) : List Char :=
  if minutes = 0 then "datetime.timezone.utc".toList
  else "datetime.timezone(".toList ++ CalendarFault.shownSpan minutes ++ [')']

def Date.numbers (d : Date) : List (List Char) := [digits d.year, digits d.month, digits d.day]

def Date.shown (d : Date) : List Char :=
  "datetime.date(".toList ++ commaSeparated d.numbers ++ [')']

/-- Seconds and microseconds stand only up to the last that is not zero. -/
def Moment.shown (t : Moment) : List Char :=
  let small :=
    if t.microsecond = 0 then if t.second = 0 then [] else [t.second]
    else [t.second, t.microsecond]
  let zone := (t.zone.map fun z => ["tzinfo=".toList ++ shownZone z]).getD []
  "datetime.datetime(".toList ++
    commaSeparated (t.date.numbers ++ [t.hour, t.minute].map digits ++ small.map digits ++ zone) ++
    [')']

namespace Scalar

def shown : Scalar → List Char
  | null => "None".toList
  | bool b => if b then "True".toList else "False".toList
  | int n => decimal n
  | float x => layout.text x
  | text s => quoted s.toList
  | ragged ps => quotedPoints ps
  | bytes octets => quotedOctets octets
  | date d => d.shown
  | moment t => t.shown
  | foreign name => name.toList

/-- The scalar's own text. A half of a surrogate pair cannot be told in a message, and is replaced
there. -/
def toText : Scalar → List Char
  | text s => s.toList
  | ragged ps => plainText ps
  | date d => d.text
  | moment t => t.text
  | s => s.shown

end Scalar

namespace Value

variable [Host]

/-- What is shown of a value inside itself. -/
def shownAgain : Value → List Char
  | list _ => "[...]".toList
  | tuple _ => "(...)".toList
  | mapping _ => "\x7b...\x7d".toList
  | _ => "...".toList

mutual

/-- The value as it is shown inside the given knots, with what is shown of each. -/
def shownIn (knots : List (Nat × List Char)) : Value → List Char
  | scalar s => s.shown
  | list items => '[' :: commaSeparated (shownItems knots items) ++ [']']
  | tuple [v] => '(' :: v.shownIn knots ++ [',', ')']
  | tuple items => '(' :: commaSeparated (shownItems knots items) ++ [')']
  | mapping entries => '\x7b' :: commaSeparated (shownEntries knots entries) ++ ['\x7d']
  | set members =>
    if members.isEmpty then "set()".toList
    else '\x7b' :: commaSeparated ((Host.arranged members).map Scalar.shown) ++ ['\x7d']
  | knot label body =>
    match knots.lookup label with
    | some text => text
    | none => body.shownIn ((label, body.shownAgain) :: knots)
  | again label => (knots.lookup label).getD (shownAgain .null)

def shownItems (knots : List (Nat × List Char)) : List Value → List (List Char)
  | [] => []
  | v :: vs => v.shownIn knots :: shownItems knots vs

def shownEntries (knots : List (Nat × List Char)) : List (Scalar × Value) → List (List Char)
  | [] => []
  | (k, v) :: es => (k.shown ++ ':' :: ' ' :: v.shownIn knots) :: shownEntries knots es

end

def shown (v : Value) : List Char := v.shownIn []

/-- The value's own text. -/
def toText : Value → List Char
  | scalar s => s.toText
  | v => v.shown

def display (v : Value) : String := String.ofList v.toText

@[simp] theorem display_text (s : String) : (text s).display = s := String.ofList_toList

end Value

end DotPath

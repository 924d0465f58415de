import DotPath.Text.Digit
import DotPath.Text.Pattern

set_option autoImplicit false

/-!
Tags of nodes. A plain scalar without a tag has the tag that its form implies: a truth value, a
number, a date, nothing, the mark of a merge or of a default value, or else a text.
-/

namespace DotPath.Yaml

open Text Pattern

/-- `unknown` is every tag without a meaning here. -/
inductive Tag where
  | null
  | bool
  | int
  | float
  | binary
  | timestamp
  | orderedMap
  | pairs
  | set
  | text
  | sequence
  | mapping
  | merge
  | value
  | unknown
  deriving DecidableEq, Repr

namespace Tag

/-- The names of the tags after their common beginning. -/
def names : List (String × Tag) :=
  [("null", null), ("bool", bool), ("int", int), ("float", float), ("binary", binary),
    ("timestamp", timestamp), ("omap", orderedMap), ("pairs", pairs), ("set", set), ("str", text),
    ("seq", sequence), ("map", mapping), ("merge", merge), ("value", value)]

/-- How every tag of the standard begins. -/
def family : String := "tag:yaml.org,2002:"

def ofText (s : String) : Tag :=
  ((names.find? fun n => family ++ n.1 == s).map (·.2)).getD unknown

def digit : Pattern := one isAsciiDigit

def spacedDigit : Pattern := one fun c => isAsciiDigit c || c == '_'

def sign : Pattern := optional (anyOf "+-")

def boolPattern : Pattern :=
  oneOf ["yes", "Yes", "YES", "no", "No", "NO", "true", "True", "TRUE", "false", "False", "FALSE",
    "on", "On", "ON", "off", "Off", "OFF"]

def exponent : Pattern := optional (all [anyOf "eE", anyOf "+-", repeated digit])

/-- Parts below sixty after colons. -/
def sixtieths : Pattern :=
  repeated (all [char ':', optional (one fun c => '0' ≤ c && c ≤ '5'), digit])

def floatPattern : Pattern :=
  any [all [sign, digit, many spacedDigit, char '.', many spacedDigit, exponent],
    all [char '.', digit, many spacedDigit, exponent],
    all [sign, digit, many spacedDigit, sixtieths, char '.', many spacedDigit],
    all [sign, char '.', oneOf ["inf", "Inf", "INF"]],
    all [char '.', oneOf ["nan", "NaN", "NAN"]]]

def intPattern : Pattern :=
  let nonzero := one fun c => isAsciiDigit c && c != '0'
  all [sign, any [all [Pattern.text "0b", repeated (anyOf "01_")],
    all [char '0', repeated (one fun c => ('0' ≤ c && c ≤ '7') || c == '_')],
    char '0',
    all [nonzero, many spacedDigit],
    all [Pattern.text "0x", repeated (one fun c => isHexDigit c || c == '_')],
    all [nonzero, many spacedDigit, sixtieths]]]

def timestampPattern : Pattern :=
  let upToTwo := all [digit, optional digit]
  let two := all [digit, digit]
  let gap := many (anyOf " \t")
  let zone := all [gap, any [char 'Z', all [anyOf "-+", upToTwo, optional (all [char ':', two])]]]
  any [all [two, two, char '-', two, char '-', two],
    all [two, two, char '-', upToTwo, char '-', upToTwo,
      any [anyOf "Tt", repeated (anyOf " \t")], upToTwo, char ':', two, char ':', two,
      optional (all [char '.', many digit]), optional zone]]

/-- The tags that forms imply, in the order in which they are tried. -/
def forms : List (Pattern × Tag) :=
  [(boolPattern, bool), (floatPattern, float), (intPattern, int), (Pattern.text "<<", merge),
    (oneOf ["~", "null", "Null", "NULL", ""], null), (timestampPattern, timestamp),
    (Pattern.text "=", value), (anyOf "!&*", unknown)]

/-- The tag that the form of a scalar implies. A break at the end does not count. -/
def implied (cs : List Char) : Tag :=
  let core := if cs.length > 1 && cs.getLast? == some '\n' then cs.dropLast else cs
  ((forms.find? (·.1.accepts core)).map (·.2)).getD text

end Tag

end DotPath.Yaml

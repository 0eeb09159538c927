/-! Mappings of texts as YAML 1.1 documents. A plain scalar is typed by its form, so a text that has
the form of an integer or of a truth value stands between single quotes. -/

namespace EditorConfig.Yaml

/-- How a mapping is to be dumped: on one line or with a line for every pair, and by the order of
its keys or in its own order. -/
structure Style where
  flow : Bool
  sorted : Bool

/-- What makes a document of a mapping. -/
abbrev Dump := Style → List (String × String) → String

/-- A line for every pair, in the order of the mapping. -/
def Style.block : Style := ⟨false, false⟩

def isTruth (s : String) : Bool :=
  ["yes", "Yes", "YES", "no", "No", "NO", "true", "True", "TRUE", "false", "False", "FALSE",
    "on", "On", "ON", "off", "Off", "OFF"].contains s

def isBinary (c : Char) : Bool := c == '0' || c == '1' || c == '_'

def isOctal (c : Char) : Bool := (decide ('0' ≤ c) && decide (c ≤ '7')) || c == '_'

def isDecimal (c : Char) : Bool := c.isDigit || c == '_'

def isHexadecimal (c : Char) : Bool :=
  isDecimal c || (decide ('a' ≤ c) && decide (c ≤ 'f')) || (decide ('A' ≤ c) && decide (c ≤ 'F'))

/-- Groups below sixty, each after a colon. -/
def isSexagesimal : List Char → Bool
  | [] => true
  | [':', a] => a.isDigit
  | ':' :: a :: b :: rest =>
    if b = ':' then a.isDigit && isSexagesimal (b :: rest)
    else decide ('0' ≤ a) && decide (a ≤ '5') && b.isDigit && isSexagesimal rest
  | _ => false

/-- Digits of one of the five bases: two, sixteen, eight, ten and sixty. -/
def isUnsigned : List Char → Bool
  | [] => false
  | '0' :: 'b' :: cs => !cs.isEmpty && cs.all isBinary
  | '0' :: 'x' :: cs => !cs.isEmpty && cs.all isHexadecimal
  | c :: cs =>
    if c = '0' then cs.all isOctal
    else c.isDigit && isSexagesimal (cs.dropWhile isDecimal)

def isInteger (s : String) : Bool :=
  match s.toList with
  | '-' :: cs => isUnsigned cs
  | '+' :: cs => isUnsigned cs
  | cs => isUnsigned cs

/-- A text whose plain form would not be read as a text. -/
def needsQuotes (s : String) : Bool := isInteger s || isTruth s

/-- The scalar that is read as the text. -/
def scalar (s : String) : String := if needsQuotes s then "'" ++ s ++ "'" else s

/-- One pair of a mapping, on a line of its own. -/
def line (key value : String) : String := scalar key ++ ": " ++ scalar value ++ "\n"

/-- Dumps a mapping of words in block style, which is the only one that is asked for. -/
def dump : Dump := fun _ pairs => String.join (pairs.map fun e => line e.1 e.2)

end EditorConfig.Yaml

import EditorConfig.Template.Fault
import EditorConfig.Text.Digit

/-! Layouts: how a text or a number fills its field. A layout may give, in this order, an alignment
with a fill character, a sign, two options, a width, a separator of digit groups, a precision and a
presentation. -/

namespace EditorConfig.Template

/-- Where a text stands in its field; an inner alignment fills between the sign and the digits. -/
inductive Alignment
  | left
  | right
  | center
  | inner
  deriving DecidableEq

def Alignment.ofMark? : Char → Option Alignment
  | '<' => some left
  | '>' => some right
  | '^' => some center
  | '=' => some inner
  | _ => none

structure Layout where
  alignment : Alignment
  fill : Char := ' '
  sign : Option Char := none
  /-- Does not tell a negative zero from zero. -/
  unsignedZero : Bool := false
  /-- Shows the base of a number. -/
  alternate : Bool := false
  width : Nat := 0
  separator : Option Char := none
  precision : Option Nat := none
  /-- How a value is presented; none is the way of its type, and so is a null character for
  floats. -/
  presentation : Option Char := none

/-- The largest number in a template. -/
def maxNumber : Nat := Nat.pow 2 63 - 1

/-- The number at the beginning of a text, if there is one, and the rest. Digits of all scripts make
a number. -/
def scanNumber (cs : List Char) : Except Fault (Option Nat × List Char) :=
  let isDigit (c : Char) := (Text.digitValue? c).isSome
  let digits := cs.takeWhile isDigit
  let n := Text.decimalNumber digits
  if digits = [] then .ok (none, cs)
  else if maxNumber < n then .error .hugeNumber
  else .ok (some n, cs.dropWhile isDigit)

/-- The greatest length of what is laid out. -/
def maxLength : Nat := Nat.pow 2 22

/-- Takes a character off a text that starts with it. -/
def scanMark (mark : Char) : List Char → Bool × List Char
  | [] => (false, [])
  | c :: rest => if c = mark then (true, rest) else (false, c :: rest)

namespace Layout

/-- The alignment and the fill character at the beginning of a layout, if they are given. -/
def scanAlignment : List Char → Option (Alignment × Option Char) × List Char
  | fill :: mark :: rest =>
    match Alignment.ofMark? mark, Alignment.ofMark? fill with
    | some a, _ => (some (a, some fill), rest)
    | none, some a => (some (a, none), mark :: rest)
    | none, none => (none, fill :: mark :: rest)
  | [mark] =>
    match Alignment.ofMark? mark with
    | some a => (some (a, none), [])
    | none => (none, [mark])
  | [] => (none, [])

/-- The sign at the beginning of a text, if there is one, and the rest. -/
def scanSign : List Char → Option Char × List Char
  | [] => (none, [])
  | c :: rest => if [' ', '+', '-'].contains c then (some c, rest) else (none, c :: rest)

/-- The separator at the beginning of a text, if there is one, and the rest. -/
def scanSeparator (cs : List Char) : Except Fault (Option Char × List Char) :=
  match cs with
  | ',' :: '_' :: _ | '_' :: ',' :: _ => .error .twoSeparators
  | ',' :: rest => .ok (some ',', rest)
  | '_' :: rest => .ok (some '_', rest)
  | _ => .ok (none, cs)

/-- The precision at the beginning of a text, after a point, and the rest. -/
def scanPrecision : List Char → Except Fault (Option Nat × List Char)
  | '.' :: rest => do
    match ← scanNumber rest with
    | (none, _) => .error .missingPrecision
    | (some n, rest) => return (some n, rest)
  | cs => .ok (none, cs)

/-- The presentations with separators of digit groups; underscores also separate the digits of
other bases than ten. -/
def separable (separator presentation : Char) : Bool :=
  ['d', 'e', 'f', 'g', 'E', 'G', '%', 'F', '\x00'].contains presentation ||
    (separator == '_' && ['b', 'o', 'x', 'X'].contains presentation)

/-- Reads a layout for values of a type, which are aligned in a way of their own; `own` is the
presentation that is meant where none is given. -/
def read (typeName : String) (side : Alignment) (own : Option Char) (layout : List Char) :
    Except Fault Layout := do
  let (alignment, cs) := scanAlignment layout
  let (sign, cs) := scanSign cs
  let (unsignedZero, cs) := scanMark 'z' cs
  let (alternate, cs) := scanMark '#' cs
  let explicitFill := alignment.bind (·.2)
  let (zero, cs) := if explicitFill.isSome then (false, cs) else scanMark '0' cs
  let (width, cs) ← scanNumber cs
  let (separator, cs) ← scanSeparator cs
  let (precision, cs) ← scanPrecision cs
  let presentation ← match cs with
    | [] => .ok own
    | [c] => .ok (some c)
    | _ => .error (.unknownLayout (String.ofList layout) typeName)
  match separator, presentation with
  | some s, some c => if separable s c then .ok () else .error (.separatorWith s c)
  | _, _ => .ok ()
  return {
    alignment := match alignment with
      | some (a, _) => a
      | none => if zero && side = .right then .inner else side
    fill := explicitFill.getD (if zero then '0' else ' ')
    sign, unsignedZero, alternate, separator, precision, presentation
    width := width.getD 0 }

/-- There is room for the field. -/
def room (l : Layout) : Except Fault Unit :=
  if maxLength < l.width then .error .noRoom else .ok ()

/-- Fills the field around a text that has an inner gap after its head. -/
def pad (l : Layout) (head body : List Char) : List Char :=
  let room := l.width - (head.length + body.length)
  let gap (n : Nat) := List.replicate n l.fill
  match l.alignment with
  | .left => head ++ body ++ gap room
  | .right => gap room ++ head ++ body
  | .center => gap (room / 2) ++ head ++ body ++ gap (room - room / 2)
  | .inner => head ++ gap room ++ body

/-- Lays out a text: at most as many characters as the precision says. -/
def text (layout : List Char) (cs : List Char) : Except Fault (List Char) := do
  if layout = [] then return cs
  let l ← read "str" .left (some 's') layout
  let place := "in string format specifier"
  if l.presentation ≠ some 's' then
    .error (.unknownPresentation (l.presentation.getD 's') "str")
  match l.sign with
  | some ' ' => .error (.unfitOption "Space" place)
  | some _ => .error (.unfitOption "Sign" place)
  | none => .ok ()
  if l.unsignedZero then .error (.unfitOption "Negative zero coercion (z)" place)
  if l.alternate then .error (.unfitOption "Alternate form (#)" place)
  if l.alignment = .inner then .error (.unfitOption "'=' alignment" place)
  l.room
  return l.pad [] (cs.take (l.precision.getD cs.length))

end Layout

end EditorConfig.Template

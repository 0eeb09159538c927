import EditorConfig.Template.Decimal
import EditorConfig.Template.Layout

/-! Numbers in layouts. Integers are shown in a base, as the character that they are the code point
of, or as the float next to them; floats are shown by their shortest digits, or with as many digits
as the layout says. -/

namespace EditorConfig.Template

/-- A float without its sign. -/
inductive Magnitude
  | finite (x : Fraction)
  | infinite
  | undefined

/-- The magnitude of unsigned float digits. -/
def Magnitude.ofDigits (cs : List Char) : Magnitude :=
  match floatOfDigits? cs with
  | some x => .finite x
  | none => if cs = ['i', 'n', 'f'] then .infinite else .undefined

/-- A magnitude times a hundred, for percentages. -/
def Magnitude.hundredfold : Magnitude → Magnitude
  | .finite x => ((x.scale 10 2).toFloat?.map .finite).getD .infinite
  | m => m

namespace Layout

/-- Puts a separator between groups of digits, counted from the last one. -/
def grouped (size : Nat) (separator : Char) (digits : List Char) : List Char :=
  (digits.reverse.zipIdx.flatMap fun (c, i) =>
    if i % size = 0 ∧ i ≠ 0 then [separator, c] else [c]).reverse

/-- Zeros in front of digits so that the digits, once they are in groups, have a width. Groups start
with a digit, so the width may be passed by one. -/
def zeros (size width digits : Nat) : List Char :=
  let enough (n : Nat) := decide (width ≤ digits + n + (digits + n - 1) / size)
  List.replicate (((List.range (width + 1)).find? enough).getD 0) '0'

/-- Lays out a number, given by its sign, what shows its base, its digits and what follows them.
Zeros that fill the field count as digits. -/
def number (l : Layout) (negative : Bool) (base digits rest : List Char) : List Char :=
  let sign := if negative then ['-'] else match l.sign with
    | some '+' => ['+']
    | some ' ' => [' ']
    | _ => []
  let head := sign ++ base
  let size := if [some 'b', some 'o', some 'x', some 'X'].contains l.presentation then 4 else 3
  let width :=
    if l.fill = '0' ∧ l.alignment = .inner then l.width - (head.length + rest.length) else 0
  let shown := match digits, l.separator with
    | [], _ => []
    | _, none => List.replicate (width - digits.length) '0' ++ digits
    | _, some s => grouped size s (zeros size width digits.length ++ digits)
  l.pad head (shown ++ rest)

/-- The base of the digits that a presentation shows, and the mark of the base. -/
def base? : Char → Option (Nat × List Char)
  | 'd' | 'n' => some (10, [])
  | 'b' => some (2, ['0', 'b'])
  | 'o' => some (8, ['0', 'o'])
  | 'x' => some (16, ['0', 'x'])
  | 'X' => some (16, ['0', 'X'])
  | _ => none

/-- Lays out the character of a code point. -/
def character (l : Layout) (n : Int) : Except Fault (List Char) := do
  let place := "with integer format specifier 'c'"
  if l.sign.isSome then .error (.unfitOption "Sign" place)
  if l.alternate then .error (.unfitOption "Alternate form (#)" place)
  l.room
  if 0 ≤ n ∧ n ≤ 0x10ffff then return l.number false [] [] [Char.ofNat n.toNat]
  else .error .noCharacter

/-- The presentations of floats. -/
def floatPresentations : List Char := ['e', 'E', 'f', 'F', 'g', 'G', '%']

/-- The largest precision of a float. -/
def maxPrecision : Nat := Nat.pow 2 31 - 1

/-- The digits of a fraction. -/
def present (l : Layout) (x : Fraction) : List Char :=
  let places := l.precision.getD 6
  let count := max places 1
  match l.presentation with
  | some 'f' | some 'F' | some '%' => fixed l.alternate places x
  | some 'e' | some 'E' =>
    let (digits, power) := significant (places + 1) x
    scientific l.alternate digits power
  | none => general l.alternate true count (count - 1) x
  | _ => general l.alternate false count count x

/-- The shortest digits of a float, with a point before the exponent if it is shown always. -/
def shortest (l : Layout) (cs : List Char) : List Char :=
  let significand := cs.takeWhile (· != 'e')
  if l.alternate && significand.length < cs.length && !significand.contains '.' then
    significand ++ '.' :: cs.dropWhile (· != 'e')
  else cs

/-- The digits are those of zero, whatever the exponent. -/
def isZero (cs : List Char) : Bool :=
  cs.head?.any Char.isDigit && (cs.takeWhile fun c => c.isDigit || c == '.').all fun c =>
    c == '0' || c == '.'

/-- Lays out a float, given by its sign and the digits that are shown. -/
def signed (l : Layout) (negative : Bool) (cs : List Char) : List Char :=
  let signed := negative && !(l.unsignedZero && isZero cs)
  let cs := if l.presentation = some '%' then cs ++ ['%'] else cs
  l.number signed [] (cs.takeWhile Char.isDigit) (cs.dropWhile Char.isDigit)

/-- All digits that the layout asks for are shown. -/
def showsAll (l : Layout) : Bool :=
  l.alternate || !([none, some 'g', some 'G', some 'n'].contains l.presentation)

/-- Lays out a magnitude with as many digits as the layout says. -/
def magnitude (l : Layout) (negative : Bool) (m : Magnitude) : Except Fault (List Char) := do
  if l.precision.any (maxPrecision < ·) then .error .hugePrecision
  l.room
  let cs ← match if l.presentation = some '%' then m.hundredfold else m with
    | .infinite => .ok ['i', 'n', 'f']
    | .undefined => .ok ['n', 'a', 'n']
    | .finite x =>
      if l.showsAll && l.precision.any (maxLength < ·) then .error .noRoom else .ok (l.present x)
  let capital := [some 'E', some 'F', some 'G'].contains l.presentation
  return l.signed negative (if capital then cs.map Char.toUpper else cs)

/-- Lays out an integer of a type. -/
def integer (typeName : String) (layout : List Char) (n : Int) : Except Fault (List Char) := do
  let l ← read typeName .right (some 'd') layout
  let presentation := l.presentation.getD 'd'
  let place := "in integer format specifier"
  let limits : Except Fault Unit := do
    if l.precision.isSome then .error (.unfitOption "Precision" place)
    if l.unsignedZero then .error (.unfitOption "Negative zero coercion (z)" place)
  match base? presentation with
  | some (base, mark) =>
    limits
    if base = 10 ∧ Text.overlong n then .error .overlong
    l.room
    let digits := Nat.toDigits base n.natAbs
    let shown := if presentation = 'X' then digits.map Char.toUpper else digits
    return l.number (decide (n < 0)) (if l.alternate then mark else []) shown []
  | none =>
    if presentation = 'c' then
      limits
      l.character n
    else if floatPresentations.contains presentation then
      match Fraction.toFloat? ⟨n.natAbs, 1⟩ with
      | some x => l.magnitude (decide (n < 0)) (.finite x)
      | none => .error .hugeInteger
    else .error (.unknownPresentation presentation typeName)

/-- Lays out the digits of a float. -/
def float (layout : List Char) (digits : String) : Except Fault (List Char) := do
  let l ← read "float" .right none layout
  let l := if l.presentation = some '\x00' then { l with presentation := none } else l
  let (negative, cs) := scanMark '-' digits.toList
  match l.presentation with
  | some c =>
    if c = 'n' ∨ floatPresentations.contains c then l.magnitude negative (.ofDigits cs)
    else .error (.unknownPresentation c "float")
  | none =>
    if l.precision.isSome then l.magnitude negative (.ofDigits cs)
    else
      l.room
      return l.signed negative (l.shortest cs)

end Layout

end EditorConfig.Template

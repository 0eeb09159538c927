import EditorConfig.Text.Printable

/-! Quoted texts. A message shows a text between quotes: single ones, unless the text holds a
single quote and no double one. Inside, a backslash and the quote in use stand behind a backslash,
line feed, carriage return and tab have their short escapes, and every other character that is not
shown as it is becomes its code point in two, four or eight lowercase hexadecimal digits. -/

namespace EditorConfig.Text

def singleQuote : Char := '\x27'

def doubleQuote : Char := '\x22'

def backslash : Char := '\x5c'

/-- The quote that surrounds a text. -/
def quoteMark (cs : List Char) : Char :=
  if singleQuote ∈ cs ∧ doubleQuote ∉ cs then doubleQuote else singleQuote

/-- The last `width` hexadecimal digits of a number, the most significant one first. -/
def hexDigits : Nat → Nat → List Char
  | 0, _ => []
  | width + 1, n => Nat.digitChar (n / Nat.pow 16 width % 16) :: hexDigits width n

@[simp] theorem length_hexDigits (width n : Nat) : (hexDigits width n).length = width := by
  induction width with
  | zero => rfl
  | succ width ih => simp [hexDigits, ih]

/-- A code point as the shortest of the three numeric escapes that holds it. -/
def numericEscape (n : Nat) : List Char :=
  if n < 0x100 then backslash :: 'x' :: hexDigits 2 n
  else if n < 0x10000 then backslash :: 'u' :: hexDigits 4 n
  else backslash :: 'U' :: hexDigits 8 n

/-- One character between quotes of the given kind; `plain` says which characters are copied. -/
def escaped (plain : Char → Bool) (mark c : Char) : List Char :=
  if c = mark ∨ c = backslash then [backslash, c]
  else if c = '\n' then [backslash, 'n']
  else if c = '\r' then [backslash, 'r']
  else if c = '\t' then [backslash, 't']
  else if plain c then [c]
  else numericEscape c.toNat

/-- A text between its quotes. -/
def enclosed (plain : Char → Bool) (cs : List Char) : List Char :=
  quoteMark cs :: cs.flatMap (escaped plain (quoteMark cs)) ++ [quoteMark cs]

/-- The written form of a text. -/
def quoted (s : String) : String := String.ofList (enclosed isPrintable s.toList)

@[simp] theorem toList_quoted (s : String) : (quoted s).toList = enclosed isPrintable s.toList := by
  simp [quoted]

/-- The printable part of ASCII, the only bytes shown as characters. -/
def isPrintableAscii (c : Char) : Bool := decide (0x20 ≤ c.toNat) && decide (c.toNat ≤ 0x7e)

/-- The written form of a sequence of bytes. -/
def quotedBytes (bytes : List UInt8) : String :=
  String.ofList ('b' :: enclosed isPrintableAscii (bytes.map fun b => Char.ofNat b.toNat))

end EditorConfig.Text

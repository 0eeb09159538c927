import EditorConfig.Text.Clipped
import EditorConfig.Text.Digit

/-! Faults of templates: why a template cannot be filled with a value. A template can be malformed,
can ask for a layout that the value does not have, or for a part of the value that is not there. -/

namespace EditorConfig.Template

inductive Fault
  /-- A brace that neither starts nor ends a field. -/
  | loneBrace (brace : Char)
  | braceInName
  | unclosedField
  | unclosedLayout
  /-- Nothing follows the mark of a conversion. -/
  | missingConversion
  /-- Something other than a layout follows a conversion. -/
  | looseConversion
  | unknownConversion (conversion : Char)
  /-- A layout has fields whose layouts have fields. -/
  | tooDeep
  /-- Some fields are numbered, the first one among them or not, and others are not. -/
  | mixedNumbering (firstNumbered : Bool)
  | hugeNumber
  | emptyPart
  | unclosedIndex
  /-- Something other than a part follows an index. -/
  | looseIndex
  | unknownLayout (layout typeName : String)
  | missingPrecision
  | twoSeparators
  | separatorWith (separator presentation : Char)
  | unknownPresentation (presentation : Char) (typeName : String)
  /-- The layout of a text or an integer has something that only others have. -/
  | unfitOption (option place : String)
  /-- An integer is to be shown in more decimal digits than are written. -/
  | overlong
  /-- An integer is to be shown as a character, and is the code point of none. -/
  | noCharacter
  /-- An integer is to be shown as a float, and is larger than all floats. -/
  | hugeInteger
  | hugePrecision
  /-- There is no room for what is to be laid out. -/
  | noRoom
  /-- A value of the type has the empty layout only. -/
  | withoutLayouts (typeName : String)
  /-- There is only one value to fill in. -/
  | noSuchValue
  | noSuchName (name : String)
  | noSuchAttribute (name : String)
  | noSuchIndex (index : Nat)
  | noSuchEntry (key : String)
  | indivisible (typeName : String)
  /-- A value with numbered items is asked for a named one. -/
  | namedItem (typeName : String)

/-- A character in a report: as it is if it belongs to the printable part of ASCII, as its code
point otherwise. -/
def codeText (c : Char) : String :=
  if 0x20 < c.toNat ∧ c.toNat < 0x80 then String.singleton c
  else "\\x" ++ String.ofList (Nat.toDigits 16 c.toNat)

/-- What the type calls its indices. -/
def indexText : String → String
  | "list" => "list indices must be integers or slices, not str"
  | "bytes" => "byte indices must be integers or slices, not str"
  | "tuple" => "tuple indices must be integers or slices, not str"
  | _ => "string indices must be integers, not 'str'"

/-- The sentence that reports a fault, for those that have one. -/
def Fault.message : Fault → Option String
  | loneBrace brace =>
    some ("Single '" ++ String.singleton brace ++ "' encountered in format string")
  | braceInName => some "unexpected '\x7b' in field name"
  | unclosedField => some "expected '\x7d' before end of string"
  | unclosedLayout => some "unmatched '\x7b' in format spec"
  | missingConversion => some "end of string while looking for conversion specifier"
  | looseConversion => some "expected ':' after conversion specifier"
  | unknownConversion c => some ("Unknown conversion specifier " ++ codeText c)
  | tooDeep => some "Max string recursion exceeded"
  | mixedNumbering true =>
    some "cannot switch from manual field specification to automatic field numbering"
  | mixedNumbering false =>
    some "cannot switch from automatic field numbering to manual field specification"
  | hugeNumber => some "Too many decimal digits in format string"
  | emptyPart => some "Empty attribute in format string"
  | unclosedIndex => some "Missing ']' in format string"
  | looseIndex => some "Only '.' or '[' may follow ']' in format field specifier"
  | unknownLayout layout typeName =>
    some ("Invalid format specifier '" ++ layout ++ "' for object of type '" ++ typeName ++ "'")
  | missingPrecision => some "Format specifier missing precision"
  | twoSeparators => some "Cannot specify both ',' and '_'."
  | separatorWith separator presentation =>
    some ("Cannot specify '" ++ String.singleton separator ++ "' with '" ++ codeText presentation ++
      "'.")
  | unknownPresentation presentation typeName =>
    some ("Unknown format code '" ++ codeText presentation ++ "' for object of type '" ++
      typeName ++ "'")
  | unfitOption option place => some (option ++ " not allowed " ++ place)
  | overlong => some Text.overlongText
  | withoutLayouts typeName =>
    some ("unsupported format string passed to " ++ Text.clipped typeName ++ ".__format__")
  | indivisible typeName => some ("'" ++ Text.clipped typeName ++ "' object is not subscriptable")
  | namedItem typeName => some (indexText typeName)
  | hugePrecision => some "precision too big"
  | noCharacter | hugeInteger | noRoom | noSuchValue | noSuchName _ | noSuchAttribute _
  | noSuchIndex _ | noSuchEntry _ => none

end EditorConfig.Template

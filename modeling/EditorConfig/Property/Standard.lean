import EditorConfig.Property.Declaration

/-! The standard properties as property classes. Indentation sizes and tab widths are whole numbers,
so zero is among them. -/

namespace EditorConfig

namespace StandardProperty

/-- Names and texts of the members, for the enumerations. -/
def literals : StandardProperty → Option (List (String × String))
  | indentStyle => some [("TABS", "tab"), ("SPACES", "space")]
  | endOfLine => some [("LF", "lf"), ("CRLF", "crlf"), ("CR", "cr")]
  | charset =>
    some [("UTF8", "utf-8"), ("LATIN1", "latin1"), ("UTF16LE", "utf-16le"),
      ("UTF16BE", "utf-16be"), ("UTF8BOM", "utf-8-bom")]
  | _ => none

def rule : StandardProperty → Rule
  | indentStyle | endOfLine | charset => .enumeration
  | indentSize => .optional .uint "tab"
  | tabWidth => .scalar .uint
  | trimTrailingWhitespace | finalNewline => .scalar .bool
  | maxLineLength => .optional .uint "off"

/-- The class of the property, with its attributes. -/
def propertyClass (p : StandardProperty) : PropertyClass :=
  (p.rule.assignments ++ [Assignment.key p.key, .kind p.rule.kind]).foldl PropertyClass.assign
    (.fresh (.standard p) p.className p.literals [])

end StandardProperty

namespace Member

/-- The characters that a line ending stands for. -/
def sequence? (m : Member) : Option String :=
  if m.owner = .standard .endOfLine then
    some (if m.name = "CRLF" then "\r\n" else if m.name = "CR" then "\r" else "\n")
  else none

/-- The codec that reads and writes a charset; only the one with a byte order mark has a name of its
own. -/
def codec? (m : Member) : Option String :=
  if m.owner = .standard .charset then some (if m.name = "UTF8BOM" then "utf-8-sig" else m.text)
  else none

end Member

end EditorConfig

/-! The eight standard properties of an EditorConfig file, in catalog order, with the key that each
of them is written under. -/

namespace EditorConfig

inductive StandardProperty
  | indentStyle
  | indentSize
  | tabWidth
  | endOfLine
  | charset
  | trimTrailingWhitespace
  | finalNewline
  | maxLineLength
  deriving DecidableEq

namespace StandardProperty

/-- Catalog order. -/
def all : List StandardProperty :=
  [indentStyle, indentSize, tabWidth, endOfLine, charset, trimTrailingWhitespace, finalNewline,
    maxLineLength]

@[simp] theorem mem_all (p : StandardProperty) : p ∈ all := by cases p <;> decide

theorem nodup_all : all.Nodup := by decide

def key : StandardProperty → String
  | indentStyle => "indent_style"
  | indentSize => "indent_size"
  | tabWidth => "tab_width"
  | endOfLine => "end_of_line"
  | charset => "charset"
  | trimTrailingWhitespace => "trim_trailing_whitespace"
  | finalNewline => "insert_final_newline"
  | maxLineLength => "max_line_length"

theorem key_injective {p q : StandardProperty} (h : p.key = q.key) : p = q := by
  cases p <;> cases q <;> simp_all [key]

/-- The standard property written under a key. -/
def ofKey? (key : String) : Option StandardProperty := all.find? fun p => p.key == key

@[simp] theorem ofKey?_key (p : StandardProperty) : ofKey? p.key = some p := by
  cases p <;> decide

theorem key_of_ofKey? {k : String} {p : StandardProperty} (h : ofKey? k = some p) : p.key = k := by
  simpa using List.find?_some h

/-- The name of the class that stands for the property. -/
def className : StandardProperty → String
  | indentStyle => "IndentStyle"
  | indentSize => "IndentSize"
  | tabWidth => "TabWidth"
  | endOfLine => "EndOfLine"
  | charset => "Charset"
  | trimTrailingWhitespace => "TrimTrailingWhitespace"
  | finalNewline => "FinalNewline"
  | maxLineLength => "MaxLineLength"

end StandardProperty

/-- A property class: one of the standard ones, or the one declared at a position after them. -/
inductive ClassRef
  | standard (p : StandardProperty)
  | custom (i : Nat)
  deriving DecidableEq

end EditorConfig

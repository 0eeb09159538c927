import EditorConfig.Text.Digit
import EditorConfig.Text.Quoted
import EditorConfig.Value.Basic

/-! The written form of a value, as messages show it. -/

namespace EditorConfig

/-- A member shows its class, its name and its quoted text. One whose class leaves the written form
to a slot shows the class only. -/
def Member.written (m : Member) : String :=
  match m.hook? .display with
  | some .slot => "<" ++ m.enumeration ++ " object>"
  | _ => "<" ++ m.enumeration ++ "." ++ m.name ++ ": " ++ Text.quoted m.text ++ ">"

mutual

def Value.written : Value → String
  | .null => "None"
  | .text s => Text.quoted s
  | .int n => toString n
  | .bool b => if b then "True" else "False"
  | .float digits => digits
  | .explicitNone => "<Explicit.NONE: " ++ Text.quoted explicitText ++ ">"
  | .member m => m.written
  | .bytes bs => Text.quotedBytes bs
  | .list items => "[" ++ ", ".intercalate (writtenItems items) ++ "]"
  | .mapping entries => "\x7b" ++ ", ".intercalate (writtenEntries entries) ++ "\x7d"

def Value.writtenItems : List Value → List String
  | [] => []
  | v :: rest => v.written :: writtenItems rest

def Value.writtenEntries : List (Value × Value) → List String
  | [] => []
  | (k, v) :: rest => (k.written ++ ": " ++ v.written) :: writtenEntries rest

end

/-- The value is an integer that is too long to be written. -/
def Value.isOverlong : Value → Bool
  | .int n => Text.overlong n
  | _ => false

/-- A report that shows a value. One that should show an integer that is too long to be written
says so instead. -/
def Value.reportedIn (v : Value) (report : String) : String :=
  if v.leaves.any isOverlong then Text.overlongText else report

@[simp] theorem Value.reportedIn_text (s report : String) :
    (text s).reportedIn report = report := rfl

end EditorConfig

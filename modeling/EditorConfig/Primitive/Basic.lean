import EditorConfig.Uint
import EditorConfig.Value.Basic

/-! The two primitive kinds of value that a property can hold. Each has one canonical text for every
value; any other text, also one that differs only in case or surrounding blanks, is not
recognized. -/

namespace EditorConfig

inductive Primitive
  | uint
  | bool
  deriving DecidableEq

/-- Reads exactly `true` or `false`. -/
def Truth.parse? (s : String) : Option Bool :=
  if s = "true" then some true else if s = "false" then some false else none

def Truth.text (b : Bool) : String := if b then "true" else "false"

@[simp] theorem Truth.parse?_text (b : Bool) : Truth.parse? (Truth.text b) = some b := by
  cases b <;> decide

namespace Primitive

def name : Primitive → String
  | uint => "uint"
  | bool => "bool"

/-- The value that a text stands for, if it is recognized. -/
def parse? : Primitive → String → Option Value
  | uint, s => (Uint.parse? s).map fun n => .int n
  | bool, s => (Truth.parse? s).map .bool

end Primitive

end EditorConfig

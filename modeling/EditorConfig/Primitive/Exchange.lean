import EditorConfig.Value.Hooked

/-! Primitives against values that are not texts: writing a value in its canonical text, and asking
whether a value that should have been a text can at least be compared with one. -/

namespace EditorConfig.Primitive

/-- The canonical text of a value. A truth value is no number. -/
def render : Primitive → Value → Except Failure String
  | uint, .int n => if 0 ≤ n ∧ n ≤ Uint.max then .ok (toString n) else .error (.outOfRange n)
  | uint, v => .error (.notInteger v)
  | bool, .bool b => .ok (Truth.text b)
  | bool, v => .error (.notTruth v)

/-- Numbers are read by their characters, so a value must have parts, and more of them than any
number has digits, to be set aside unread. Truth values are looked up, which only values that
cannot be looked up at all prevent. -/
def comparable : Primitive → Value → Bool
  | uint, v => v.size?.any fun n => decide (Uint.maxDigits < n)
  | bool, v => v.unhashed?.isNone

/-- Reads any value: only texts are recognized. A member has no size, but its class can have a hook
for one. -/
def read : Primitive → Value → Except Failure (Option Value)
  | p, .text s => .ok (p.parse? s)
  | .uint, .member m => .error ((m.obstacle? .size).getD (.unreadable (.member m)))
  | p, v => if p.comparable v then .ok none else .error (.unreadable v)

end EditorConfig.Primitive

/-! Unsigned integers in canonical decimal form: ASCII digits without sign or leading zero, at most
the largest number of 64 bits. A text longer than that number is refused before it is read. -/

namespace EditorConfig.Uint

/-- The largest number of 64 bits. -/
def max : Nat := Nat.pow 2 64 - 1

/-- The number of digits of `max`. -/
def maxDigits : Nat := 20

theorem length_max : (Nat.toDigits 10 max).length = maxDigits := by decide

/-- Zero alone, or digits that do not start with zero. -/
def isCanonical : List Char → Bool
  | [] => false
  | ['0'] => true
  | c :: cs => decide ('1' ≤ c) && decide (c ≤ '9') && cs.all Char.isDigit

/-- Reads a canonical text. -/
def parse? (s : String) : Option Nat :=
  if s.length ≤ maxDigits ∧ isCanonical s.toList then
    let n := Nat.ofDigitChars 10 s.toList 0
    if n ≤ max then some n else none
  else none

theorem le_max_of_parse? {s : String} {n : Nat} (h : parse? s = some n) : n ≤ max := by
  simp only [parse?] at h
  split at h
  · split at h
    · simp_all
    · cases h
  · cases h

end EditorConfig.Uint

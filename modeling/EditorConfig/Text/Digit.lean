/-! Decimal digits of all scripts. The Unicode 14.0 general category Nd consists of runs of ten
characters with the values from zero to nine; the table lists the first character of each run, in
increasing order. Integers are written in the digits of ASCII, up to a largest number of them. -/

namespace EditorConfig.Text

/-- Code points with the value zero. -/
def zeroDigits : List Nat :=
  [0x30, 0x660, 0x6f0, 0x7c0, 0x966, 0x9e6, 0xa66, 0xae6, 0xb66, 0xbe6, 0xc66, 0xce6, 0xd66,
   0xde6, 0xe50, 0xed0, 0xf20, 0x1040, 0x1090, 0x17e0, 0x1810, 0x1946, 0x19d0, 0x1a80, 0x1a90,
   0x1b50, 0x1bb0, 0x1c40, 0x1c50, 0xa620, 0xa8d0, 0xa900, 0xa9d0, 0xa9f0, 0xaa50, 0xabf0, 0xff10,
   0x104a0, 0x10d30, 0x11066, 0x110f0, 0x11136, 0x111d0, 0x112f0, 0x11450, 0x114d0, 0x11650,
   0x116c0, 0x11730, 0x118e0, 0x11950, 0x11c50, 0x11d50, 0x11da0, 0x16a60, 0x16ac0, 0x16b50,
   0x1d7ce, 0x1d7d8, 0x1d7e2, 0x1d7ec, 0x1d7f6, 0x1e140, 0x1e2f0, 0x1e950, 0x1fbf0]

/-- The value of a decimal digit. -/
def digitValue? (c : Char) : Option Nat :=
  (zeroDigits.find? fun z => decide (z ≤ c.toNat ∧ c.toNat < z + 10)).map (c.toNat - ·)

theorem digitValue?_lt {c : Char} {n : Nat} (h : digitValue? c = some n) : n < 10 := by
  obtain ⟨z, hz, rfl⟩ := Option.map_eq_some_iff.1 h
  have hd := List.find?_some hz
  simp only [decide_eq_true_eq] at hd
  omega

/-- The number that decimal digits denote; other characters count as zeros. -/
def decimalNumber (cs : List Char) : Nat :=
  cs.foldl (fun n c => 10 * n + (digitValue? c).getD 0) 0

/-- The largest number of digits that an integer is written with. -/
def maxDigits : Nat := 4300

/-- The integer has more digits than are written. -/
def overlong (n : Int) : Bool := decide (maxDigits < (Nat.toDigits 10 n.natAbs).length)

/-- The report of an integer that is not written. -/
def overlongText : String :=
  "Exceeds the limit (" ++ toString maxDigits ++ " digits) for integer string conversion; " ++
    "use sys.set_int_max_str_digits() to increase the limit"

theorem lt_length_toDigits_iff {n k : Nat} (hk : 0 < k) :
    k < (Nat.toDigits 10 n).length ↔ Nat.pow 10 k ≤ n := by
  have hlength : (Nat.toDigits 10 n).length ≤ k ↔ n < Nat.pow 10 k :=
    Nat.length_toDigits_le_iff (by decide) hk
  rw [← Nat.not_le, hlength, Nat.not_lt]

theorem overlong_iff {n : Int} : overlong n ↔ Nat.pow 10 maxDigits ≤ n.natAbs := by
  rw [overlong, decide_eq_true_eq, lt_length_toDigits_iff (by decide)]

end EditorConfig.Text

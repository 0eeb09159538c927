import Mathlib.Tactic.Ring
import EditorConfig.Proofs.Canonical

/-! Unsigned integers by place value. The texts that are read are the numerals in range: zero alone,
or ASCII digits that do not start with zero. The length of a numeral bounds its number from both
sides, so a numeral longer than the largest number is out of range whatever its digits are, and
nothing is lost by refusing it unread; one that is shorter is in range. -/

namespace EditorConfig.Uint

/-- Zero alone, or one or more ASCII digits that do not start with zero. -/
def IsNumeral (cs : List Char) : Prop :=
  cs = ['0'] ∨ cs ≠ [] ∧ (∀ c ∈ cs, '0' ≤ c ∧ c ≤ '9') ∧ cs.head? ≠ some '0'

/-- The sum of the digits, each times the power of ten of its place. -/
def positional : List Char → Nat
  | [] => 0
  | c :: cs => (c.toNat - '0'.toNat) * 10 ^ cs.length + positional cs

theorem isDigit_iff {c : Char} : c.isDigit ↔ '0' ≤ c ∧ c ≤ '9' := by
  simp only [Char.isDigit_iff_toNat, char_le_iff]

/-- Digits that are read after a number raise it by as many places. -/
theorem ofDigitChars_eq (cs : List Char) (n : Nat) :
    Nat.ofDigitChars 10 cs n = n * 10 ^ cs.length + positional cs := by
  induction cs generalizing n with
  | nil => simp [positional]
  | cons c cs ih =>
    have hplace : (10 * n + (c.toNat - '0'.toNat)) * 10 ^ cs.length =
        n * 10 ^ (cs.length + 1) + (c.toNat - '0'.toNat) * 10 ^ cs.length := by ring
    rw [Nat.ofDigitChars_cons, ih, hplace, positional, List.length_cons, Nat.add_assoc]

theorem positional_lt {cs : List Char} (h : ∀ c ∈ cs, c.isDigit) :
    positional cs < 10 ^ cs.length := by
  induction cs with
  | nil => simp [positional]
  | cons c cs ih =>
    have hc : c.toNat - '0'.toNat < 10 := toNat_sub_lt_of_isDigit (h c List.mem_cons_self)
    have hcs := ih fun d hd => h d (List.mem_cons_of_mem c hd)
    have hplace : (c.toNat - '0'.toNat) * 10 ^ cs.length ≤ 9 * 10 ^ cs.length :=
      Nat.mul_le_mul_right _ (by omega)
    have hpow : 10 ^ (cs.length + 1) = 9 * 10 ^ cs.length + 10 ^ cs.length := by ring
    simp only [positional, List.length_cons]
    omega

/-- The first digit alone fills its place, unless it is zero. -/
theorem le_positional {c : Char} (cs : List Char) (hc : c.isDigit) (h : c ≠ '0') :
    10 ^ cs.length ≤ positional (c :: cs) := by
  have hdigit := (Char.isDigit_iff_toNat.1 hc).1
  have hne : c.toNat ≠ '0'.toNat := fun he => h (Char.toNat_inj.1 he)
  have hzero : '0'.toNat = 48 := rfl
  have hplace : 1 * 10 ^ cs.length ≤ (c.toNat - '0'.toNat) * 10 ^ cs.length :=
    Nat.mul_le_mul_right _ (by omega)
  simp only [positional]
  omega

theorem IsNumeral.isDigit {cs : List Char} (h : IsNumeral cs) : ∀ c ∈ cs, c.isDigit := by
  rcases h with rfl | ⟨-, hdigits, -⟩
  · simp
  · exact fun c hc => isDigit_iff.2 (hdigits c hc)

theorem isCanonical_iff {cs : List Char} : isCanonical cs ↔ IsNumeral cs := by
  unfold isCanonical IsNumeral
  split
  · simp
  · simp
  · rename_i c cs hzero
    have hc : ('1' ≤ c ∧ c ≤ '9') ↔ ('0' ≤ c ∧ c ≤ '9') ∧ c ≠ '0' := by
      have h0 : '0'.toNat = 48 := rfl
      have h1 : '1'.toNat = 49 := rfl
      have hne : c ≠ '0' ↔ c.toNat ≠ '0'.toNat := not_congr Char.toNat_inj.symm
      simp only [hne, char_le_iff]
      omega
    have hlone : c :: cs ≠ ['0'] := by simpa using hzero
    simp only [Bool.and_eq_true, decide_eq_true_eq, hc, List.all_eq_true, isDigit_iff, hlone,
      false_or, ne_eq, List.cons_ne_nil, not_false_eq_true, true_and, List.forall_mem_cons,
      List.head?_cons, Option.some.injEq]
    exact and_right_comm

instance : DecidablePred IsNumeral := fun cs =>
  decidable_of_iff (isCanonical cs = true) isCanonical_iff

/-- A numeral in range is no longer than the largest number. -/
theorem IsNumeral.length_le {cs : List Char} (h : IsNumeral cs) (hle : positional cs ≤ max) :
    cs.length ≤ maxDigits := by
  rcases h with rfl | ⟨hne, hdigits, hhead⟩
  · decide
  · obtain ⟨c, cs, rfl⟩ := List.exists_cons_of_ne_nil hne
    have hc : c.isDigit := isDigit_iff.2 (hdigits c List.mem_cons_self)
    have hlow := le_positional cs hc (by simpa using hhead)
    have hmax : max < 10 ^ maxDigits := by decide
    have hpow : 10 ^ cs.length < 10 ^ maxDigits := by omega
    exact (Nat.pow_lt_pow_iff_right (by decide)).1 hpow

/-- A numeral shorter than the largest number is in range. -/
theorem IsNumeral.le_max {cs : List Char} (h : IsNumeral cs) (hlen : cs.length < maxDigits) :
    positional cs ≤ max := by
  have hlt := positional_lt h.isDigit
  have hpow : 10 ^ cs.length ≤ 10 ^ (maxDigits - 1) := Nat.pow_le_pow_right (by decide) (by omega)
  have hmax : 10 ^ (maxDigits - 1) ≤ max := by decide
  omega

/-- Exactly the numerals in range are read, as the numbers that they denote. -/
theorem parse?_eq (s : String) :
    parse? s = if IsNumeral s.toList ∧ positional s.toList ≤ max then some (positional s.toList)
      else none := by
  have hvalue : Nat.ofDigitChars 10 s.toList 0 = positional s.toList := by
    simpa using ofDigitChars_eq s.toList 0
  unfold parse?
  simp only [isCanonical_iff, hvalue]
  by_cases h : IsNumeral s.toList
  · by_cases hle : positional s.toList ≤ max
    · have hlen := h.length_le hle
      rw [String.length_toList] at hlen
      simp [h, hle, hlen]
    · simp [hle]
  · simp [h]

/-- The length of a text never refuses a numeral in range, and never decides for a numeral that is
not longer than the largest number. -/
theorem parse?_iff_numeral (s : String) :
    (∀ n, parse? s = some n ↔
      IsNumeral s.toList ∧ positional s.toList = n ∧ n ≤ 2 ^ 64 - 1) ∧
    (parse? s = none ↔ ¬ (IsNumeral s.toList ∧ positional s.toList ≤ 2 ^ 64 - 1)) ∧
    (IsNumeral s.toList → positional s.toList ≤ 2 ^ 64 - 1 → s.length ≤ 20) ∧
    (IsNumeral s.toList → s.length ≤ 20 →
      (parse? s = some (positional s.toList) ↔ positional s.toList ≤ 2 ^ 64 - 1)) ∧
    (IsNumeral s.toList → s.length < 20 → parse? s = some (positional s.toList)) := by
  have hmax : max = 2 ^ 64 - 1 := rfl
  have hread := parse?_eq s
  rw [hmax] at hread
  refine ⟨fun n => ?_, ?_, fun h hle => ?_, fun h hlen => ?_, fun h hlen => ?_⟩
  · rw [hread]
    by_cases h : IsNumeral s.toList ∧ positional s.toList ≤ 2 ^ 64 - 1
    · rw [if_pos h, Option.some.injEq]
      exact ⟨fun hn => ⟨h.1, hn, hn ▸ h.2⟩, fun hn => hn.2.1⟩
    · rw [if_neg h]
      simp only [reduceCtorEq, false_iff]
      rintro ⟨hs, rfl, hle⟩
      exact h ⟨hs, hle⟩
  · rw [hread]
    by_cases h : IsNumeral s.toList ∧ positional s.toList ≤ 2 ^ 64 - 1 <;> simp [h]
  · rw [← String.length_toList]
    exact h.length_le hle
  · simp [hread, h]
  · rw [← String.length_toList] at hlen
    have hle : positional s.toList ≤ 2 ^ 64 - 1 := h.le_max hlen
    rw [hread, if_pos ⟨h, hle⟩]

/-- Of the numerals with twenty digits, the largest number is read and the next one is not; zeros in
front and digits of other scripts make no numeral. -/
theorem parse?_iff_numeral_max :
    parse? "18446744073709551615" = some 18446744073709551615 ∧
      parse? "18446744073709551616" = none ∧ parse? "08" = none ∧ parse? "٣" = none ∧
      parse? "9999999999999999999" = some 9999999999999999999 := by
  have hlargest := ((parse?_iff_numeral "18446744073709551615").1 18446744073709551615).2
  have hnext := (parse?_iff_numeral "18446744073709551616").2.1
  have hzero := (parse?_iff_numeral "08").2.1
  have hscript := (parse?_iff_numeral "٣").2.1
  have hshort := (parse?_iff_numeral "9999999999999999999").2.2.2.2
  refine ⟨hlargest (by decide +kernel), hnext.2 (by decide +kernel), hzero.2 (by decide +kernel),
    hscript.2 (by decide +kernel), ?_⟩
  exact (hshort (by decide +kernel) (by decide +kernel)).trans (by decide +kernel)

end EditorConfig.Uint

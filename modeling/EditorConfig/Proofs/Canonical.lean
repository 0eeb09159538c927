import EditorConfig.Primitive.Exchange

/-! Canonical texts of primitives. Reading accepts exactly what writing produces: digits without a
leading zero are the digits of their number, so a value has one text and a text one value. -/

namespace EditorConfig

namespace Uint

theorem char_le_iff {c d : Char} : c ≤ d ↔ c.toNat ≤ d.toNat := by
  rw [Char.le_def, UInt32.le_iff_toNat_le]
  rfl

theorem toNat_sub_lt_of_isDigit {c : Char} (h : c.isDigit) : c.toNat - '0'.toNat < 10 := by
  have hc := Char.isDigit_iff_toNat.1 h
  have h0 : '0'.toNat = 48 := rfl
  have h9 : '9'.toNat = 57 := rfl
  omega

theorem digitChar_of_isDigit {c : Char} (h : c.isDigit) : (c.toNat - '0'.toNat).digitChar = c := by
  apply Char.toNat_inj.1
  rw [Nat.toNat_digitChar_of_lt_ten (toNat_sub_lt_of_isDigit h)]
  have hc := (Char.isDigit_iff_toNat.1 h).1
  have h0 : '0'.toNat = 48 := rfl
  omega

/-- Digits that are read after a number other than zero are appended to its digits. -/
theorem toDigits_ofDigitChars {cs : List Char} (h : ∀ c ∈ cs, c.isDigit) {n : Nat} (hn : 0 < n) :
    Nat.toDigits 10 (Nat.ofDigitChars 10 cs n) = Nat.toDigits 10 n ++ cs := by
  induction cs generalizing n with
  | nil => simp
  | cons c cs ih =>
    have hc : c.isDigit := h c List.mem_cons_self
    have hd := toNat_sub_lt_of_isDigit hc
    have hcs : ∀ d ∈ cs, d.isDigit := fun d hd => h d (List.mem_cons_of_mem c hd)
    rw [Nat.ofDigitChars_cons, ih hcs (by omega), ← Nat.toDigits_append_toDigits (by decide) hn hd,
      Nat.toDigits_of_lt_base hd, digitChar_of_isDigit hc, List.append_assoc,
      List.singleton_append]

/-- Canonical digits are the digits of their number. -/
theorem toDigits_of_isCanonical {cs : List Char} (h : isCanonical cs) :
    Nat.toDigits 10 (Nat.ofDigitChars 10 cs 0) = cs := by
  unfold isCanonical at h
  split at h
  · cases h
  · rfl
  · rename_i c cs _
    simp only [Bool.and_eq_true, decide_eq_true_eq, List.all_eq_true, char_le_iff] at h
    obtain ⟨⟨hlo, hhi⟩, hcs⟩ := h
    have h0 : '0'.toNat = 48 := rfl
    have h1 : '1'.toNat = 49 := rfl
    have hc : c.isDigit := Char.isDigit_iff_toNat.2 ⟨by omega, hhi⟩
    rw [Nat.ofDigitChars_cons, toDigits_ofDigitChars hcs (by omega), Nat.mul_zero, Nat.zero_add,
      Nat.toDigits_of_lt_base (toNat_sub_lt_of_isDigit hc), digitChar_of_isDigit hc,
      List.singleton_append]

/-- The digits of a number other than zero do not start with zero. -/
theorem exists_toDigits {n : Nat} (hn : 0 < n) :
    ∃ c cs, Nat.toDigits 10 n = c :: cs ∧ c ≠ '0' := by
  induction n using Nat.strongRecOn with
  | _ n ih =>
    by_cases hlt : n < 10
    · refine ⟨n.digitChar, [], Nat.toDigits_of_lt_base hlt, ?_⟩
      rw [ne_eq, Nat.digitChar_eq_zero]
      omega
    · obtain ⟨c, cs, heq, hc⟩ := ih (n / 10) (by omega) (by omega)
      refine ⟨c, cs ++ [(n % 10).digitChar], ?_, hc⟩
      rw [Nat.toDigits_of_base_le (by decide) (by omega), heq, List.cons_append]

theorem isCanonical_toDigits (n : Nat) : isCanonical (Nat.toDigits 10 n) := by
  by_cases hn : n = 0
  · subst hn
    rfl
  · obtain ⟨c, cs, heq, hc⟩ := exists_toDigits (Nat.pos_of_ne_zero hn)
    have hdigit : ∀ d ∈ c :: cs, d.isDigit := by
      intro d hd
      exact Nat.isDigit_of_mem_toDigits (by decide) (by decide) (heq ▸ hd)
    obtain ⟨hlo, hhi⟩ := Char.isDigit_iff_toNat.1 (hdigit c List.mem_cons_self)
    have h0 : '0'.toNat = 48 := rfl
    have h1 : '1'.toNat = 49 := rfl
    have hne : c.toNat ≠ '0'.toNat := fun h => hc (Char.toNat_inj.1 h)
    have hone : '1' ≤ c ∧ c ≤ '9' := by
      rw [char_le_iff, char_le_iff]
      omega
    rw [heq]
    unfold isCanonical
    split
    · contradiction
    · rfl
    · rename_i heq'
      obtain ⟨rfl, rfl⟩ := List.cons.inj heq'
      simpa [hone.1, hone.2] using fun d hd => hdigit d (List.mem_cons_of_mem c hd)

/-- Exactly the canonical digits of the numbers in range are read. -/
theorem parse?_eq_some_iff {s : String} {n : Nat} :
    parse? s = some n ↔ s = toString n ∧ n ≤ max := by
  have hrepr : (toString n).toList = Nat.toDigits 10 n := Nat.toList_repr
  constructor
  · intro h
    have hle := le_max_of_parse? h
    simp only [parse?] at h
    split at h
    · rename_i hs
      have hn : Nat.ofDigitChars 10 s.toList 0 = n := by
        split at h
        · exact Option.some.inj h
        · cases h
      refine ⟨String.toList_injective ?_, hle⟩
      rw [hrepr, ← hn, toDigits_of_isCanonical hs.2]
    · cases h
  · rintro ⟨rfl, hle⟩
    have hlen : (toString n).length ≤ maxDigits := by
      rw [← String.length_toList, hrepr]
      exact (Nat.length_toDigits_le_iff (by decide) (by decide)).2
        (Nat.lt_of_le_of_lt hle (by decide))
    have hcan : isCanonical (toString n).toList := hrepr ▸ isCanonical_toDigits n
    rw [parse?, if_pos ⟨hlen, hcan⟩, hrepr, Nat.ofDigitChars_ten_toDigits]
    exact if_pos hle

end Uint

theorem Truth.parse?_eq_some_iff {s : String} {b : Bool} :
    Truth.parse? s = some b ↔ s = Truth.text b := by
  constructor
  · intro h
    unfold Truth.parse? at h
    split at h
    · rename_i hs
      rw [← Option.some.inj h]
      exact hs
    · split at h
      · rename_i hs
        rw [← Option.some.inj h]
        exact hs
      · cases h
  · rintro rfl
    exact Truth.parse?_text b

namespace Primitive

theorem parse?_uint_eq_some_iff {s : String} {v : Value} :
    uint.parse? s = some v ↔ ∃ n : Nat, v = .int n ∧ n ≤ Uint.max ∧ s = toString n := by
  have h : uint.parse? s = (Uint.parse? s).map fun n : Nat => Value.int n := by
    cases hs : Uint.parse? s <;> simp [parse?, hs]
  rw [h, Option.map_eq_some_iff]
  constructor
  · rintro ⟨n, hn, rfl⟩
    obtain ⟨hs, hle⟩ := Uint.parse?_eq_some_iff.1 hn
    exact ⟨n, rfl, hle, hs⟩
  · rintro ⟨n, rfl, hle, hs⟩
    exact ⟨n, Uint.parse?_eq_some_iff.2 ⟨hs, hle⟩, rfl⟩

theorem parse?_bool_eq_some_iff {s : String} {v : Value} :
    bool.parse? s = some v ↔ ∃ b, v = .bool b ∧ s = Truth.text b := by
  rw [parse?, Option.map_eq_some_iff]
  constructor
  · rintro ⟨b, hb, rfl⟩
    exact ⟨b, rfl, Truth.parse?_eq_some_iff.1 hb⟩
  · rintro ⟨b, rfl, hs⟩
    exact ⟨b, Truth.parse?_eq_some_iff.2 hs, rfl⟩

theorem render_uint_eq_ok_iff {v : Value} {s : String} :
    uint.render v = .ok s ↔ ∃ n : Nat, v = .int n ∧ n ≤ Uint.max ∧ s = toString n := by
  cases v with
  | int n =>
    by_cases hn : 0 ≤ n ∧ n ≤ Uint.max
    · obtain ⟨m, rfl⟩ := Int.eq_ofNat_of_zero_le hn.1
      rw [render, if_pos hn]
      constructor
      · intro h
        exact ⟨m, rfl, by omega, (Except.ok.inj h).symm⟩
      · rintro ⟨k, hk, -, rfl⟩
        rw [Value.int.inj hk]
        rfl
    · rw [render, if_neg hn]
      constructor
      · intro h
        cases h
      · rintro ⟨k, hk, hle, -⟩
        obtain rfl := Value.int.inj hk
        exact absurd ⟨by omega, by omega⟩ hn
  | _ => simp [render]

theorem render_bool_eq_ok_iff {v : Value} {s : String} :
    bool.render v = .ok s ↔ ∃ b, v = .bool b ∧ s = Truth.text b := by
  cases v with
  | bool b => simp [render, eq_comm]
  | _ => simp [render]

/-- A primitive reads exactly the texts that it writes. -/
theorem render_eq_ok_iff {p : Primitive} {v : Value} {s : String} :
    p.render v = .ok s ↔ p.parse? s = some v := by
  cases p with
  | uint => rw [render_uint_eq_ok_iff, parse?_uint_eq_some_iff]
  | bool => rw [render_bool_eq_ok_iff, parse?_bool_eq_some_iff]

end Primitive

end EditorConfig

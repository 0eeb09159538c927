import Mathlib.Data.List.Basic
import Mathlib.Tactic.Ring
import EditorConfig.Text.Quoted

/-! Quoted texts read back. The first character between quotes can be told from what stands there,
whatever follows it, and none of them starts with the quote in use. So a quoted text ends where its
closing quote is, and what stands behind it cannot be taken for a part of it. -/

namespace EditorConfig.Text

/-- The number of a hexadecimal digit. -/
def hexValue (c : Char) : Nat := if c.isDigit then c.toNat - '0'.toNat else c.toNat - 'a'.toNat + 10

def hexNumber (cs : List Char) : Nat := cs.foldl (fun n c => 16 * n + hexValue c) 0

/-- The first character between quotes, and what stands behind it. -/
def unescaped? : List Char → Option (Char × List Char)
  | [] => none
  | c :: cs =>
    if c ≠ backslash then some (c, cs)
    else
      match cs with
      | [] => none
      | 'n' :: rest => some ('\n', rest)
      | 'r' :: rest => some ('\r', rest)
      | 't' :: rest => some ('\t', rest)
      | 'x' :: rest => some (Char.ofNat (hexNumber (rest.take 2)), rest.drop 2)
      | 'u' :: rest => some (Char.ofNat (hexNumber (rest.take 4)), rest.drop 4)
      | 'U' :: rest => some (Char.ofNat (hexNumber (rest.take 8)), rest.drop 8)
      | d :: rest => some (d, rest)

theorem hexValue_digitChar : ∀ n, n < 16 → hexValue n.digitChar = n := by decide

theorem foldl_hexDigits (width n start : Nat) :
    (hexDigits width n).foldl (fun n c => 16 * n + hexValue c) start =
      start * 16 ^ width + n % 16 ^ width := by
  induction width generalizing start with
  | zero => simp [hexDigits, Nat.mod_one]
  | succ width ih =>
    have hdigit : hexValue (n / 16 ^ width % 16).digitChar = n / 16 ^ width % 16 :=
      hexValue_digitChar _ (Nat.mod_lt _ (by decide))
    have hplaces : n % 16 ^ (width + 1) = n % 16 ^ width + 16 ^ width * (n / 16 ^ width % 16) := by
      rw [Nat.pow_succ, Nat.mod_mul]
    rw [hexDigits, List.foldl_cons, Nat.pow_eq, hdigit, ih, hplaces]
    ring

theorem hexNumber_hexDigits {width n : Nat} (h : n < 16 ^ width) :
    hexNumber (hexDigits width n) = n := by
  rw [hexNumber, foldl_hexDigits, Nat.zero_mul, Nat.zero_add, Nat.mod_eq_of_lt h]

variable {plain : Char → Bool} {mark : Char}

/-- A numeric escape has as many digits as its letter says. -/
theorem unescaped?_numericEscape (c : Char) (rest : List Char) :
    unescaped? (numericEscape c.toNat ++ rest) = some (c, rest) := by
  unfold numericEscape
  split_ifs with htwo hfour
  · simp [unescaped?, @hexNumber_hexDigits 2 _ htwo]
  · simp [unescaped?, @hexNumber_hexDigits 4 _ hfour]
  · have height : c.toNat < 16 ^ 8 := c.val.toNat_lt
    simp [unescaped?, hexNumber_hexDigits height]

/-- Every character is read back, whatever follows it. -/
theorem unescaped?_escaped (hm : mark = singleQuote ∨ mark = doubleQuote) (c : Char)
    (rest : List Char) : unescaped? (escaped plain mark c ++ rest) = some (c, rest) := by
  unfold escaped
  split_ifs with hmark hn hr ht hplain
  · have hc : c = singleQuote ∨ c = doubleQuote ∨ c = backslash := by
      rcases hmark with rfl | h
      · exact hm.elim .inl fun h => .inr (.inl h)
      · exact .inr (.inr h)
    rcases hc with rfl | rfl | rfl <;> rfl
  · rw [hn]
    rfl
  · rw [hr]
    rfl
  · rw [ht]
    rfl
  · rw [not_or] at hmark
    simp [unescaped?, hmark.2]
  · exact unescaped?_numericEscape c rest

/-- No character between quotes starts with the quote. -/
theorem exists_escaped (hm : mark = singleQuote ∨ mark = doubleQuote) (c : Char) :
    ∃ d rest, escaped plain mark c = d :: rest ∧ d ≠ mark := by
  have hbackslash : backslash ≠ mark := by rcases hm with rfl | rfl <;> decide
  unfold escaped
  split_ifs with hmark hn hr ht hplain
  · exact ⟨_, _, rfl, hbackslash⟩
  · exact ⟨_, _, rfl, hbackslash⟩
  · exact ⟨_, _, rfl, hbackslash⟩
  · exact ⟨_, _, rfl, hbackslash⟩
  · exact ⟨c, [], rfl, fun h => hmark (.inl h)⟩
  · unfold numericEscape
    split_ifs <;> exact ⟨_, _, rfl, hbackslash⟩

theorem escaped_append_ne (hm : mark = singleQuote ∨ mark = doubleQuote) (c : Char)
    (rest others : List Char) : escaped plain mark c ++ rest ≠ mark :: others := by
  obtain ⟨d, tail, heq, hd⟩ := @exists_escaped plain mark hm c
  rw [heq, List.cons_append]
  exact fun h => hd (List.cons.inj h).1

/-- What stands between quotes ends where the first of them is that is not escaped. -/
theorem flatMap_escaped_append_inj (hm : mark = singleQuote ∨ mark = doubleQuote)
    {cs ds xs ys : List Char}
    (h : cs.flatMap (escaped plain mark) ++ mark :: xs =
      ds.flatMap (escaped plain mark) ++ mark :: ys) : cs = ds ∧ xs = ys := by
  induction cs generalizing ds with
  | nil =>
    cases ds with
    | nil => exact ⟨rfl, (List.cons.inj h).2⟩
    | cons d ds =>
      rw [List.flatMap_cons, List.append_assoc] at h
      exact absurd h.symm (escaped_append_ne hm d _ _)
  | cons c cs ih =>
    rw [List.flatMap_cons, List.append_assoc] at h
    cases ds with
    | nil => exact absurd h (escaped_append_ne hm c _ _)
    | cons d ds =>
      rw [List.flatMap_cons, List.append_assoc] at h
      -- The first character is read off both sides without knowing where the quoted texts end.
      have hread := congrArg unescaped? h
      rw [unescaped?_escaped hm, unescaped?_escaped hm, Option.some.injEq, Prod.mk.injEq] at hread
      obtain ⟨rfl, hrest⟩ := hread
      obtain ⟨rfl, hxs⟩ := ih hrest
      exact ⟨rfl, hxs⟩

theorem quoteMark_eq (cs : List Char) :
    quoteMark cs = singleQuote ∨ quoteMark cs = doubleQuote := by
  unfold quoteMark
  split_ifs
  · exact .inr rfl
  · exact .inl rfl

/-- A quoted text tells where it ends. -/
theorem enclosed_append_inj {cs ds xs ys : List Char}
    (h : enclosed plain cs ++ xs = enclosed plain ds ++ ys) : cs = ds ∧ xs = ys := by
  simp only [enclosed, List.cons_append, List.append_assoc, List.cons.injEq] at h
  obtain ⟨hmark, hinside⟩ := h
  rw [← hmark] at hinside
  exact flatMap_escaped_append_inj (quoteMark_eq cs) hinside

end EditorConfig.Text

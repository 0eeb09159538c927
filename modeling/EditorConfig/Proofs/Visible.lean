import Mathlib.Data.List.Basic
import EditorConfig.Text.Quoted

/-! Texts that are shown as they are. The table of hidden code points is in increasing order, so a
look-up that stops early in it misses none of them. Between quotes there are only characters that
are not hidden, whatever the quoted text is. -/

namespace EditorConfig.Text

/-- The intervals start in increasing order, none of them below a bound. -/
def increasing : Nat → List (Nat × Nat) → Bool
  | _, [] => true
  | n, a :: rest => Nat.ble n a.1 && increasing a.1 rest

theorem le_of_increasing {n : Nat} {ranges : List (Nat × Nat)} (h : increasing n ranges = true) :
    ∀ r ∈ ranges, n ≤ r.1 := by
  induction ranges generalizing n with
  | nil => exact List.forall_mem_nil _
  | cons a rest ih =>
    rw [increasing, Bool.and_eq_true, Nat.ble_eq] at h
    exact List.forall_mem_cons.2 ⟨h.1, fun r hr => Nat.le_trans h.1 (ih h.2 r hr)⟩

/-- A look-up in increasing intervals finds what is in one of them. -/
theorem inRanges_iff {m n : Nat} {ranges : List (Nat × Nat)} (h : increasing m ranges = true) :
    inRanges n ranges = true ↔ ∃ r ∈ ranges, r.1 ≤ n ∧ n ≤ r.2 := by
  induction ranges generalizing m with
  | nil => simp [inRanges]
  | cons a rest ih =>
    rw [increasing, Bool.and_eq_true] at h
    rw [inRanges, Bool.and_eq_true, Bool.or_eq_true, decide_eq_true_eq, decide_eq_true_eq, ih h.2]
    constructor
    · rintro ⟨hlow, hhigh | ⟨r, hr, hn⟩⟩
      · exact ⟨a, List.mem_cons_self, hlow, hhigh⟩
      · exact ⟨r, List.mem_cons_of_mem a hr, hn⟩
    · rintro ⟨r, hr, hlow, hhigh⟩
      rcases List.mem_cons.1 hr with rfl | hr
      · exact ⟨hlow, .inl hhigh⟩
      · exact ⟨Nat.le_trans (le_of_increasing h.2 r hr) hlow, .inr ⟨r, hr, hlow, hhigh⟩⟩

theorem increasing_hiddenRanges : increasing 0 hiddenRanges = true := by decide +kernel

/-- The hidden characters are all those in the table. -/
theorem isPrintable_eq_false_iff {c : Char} :
    isPrintable c = false ↔ ∃ r ∈ hiddenRanges, r.1 ≤ c.toNat ∧ c.toNat ≤ r.2 := by
  rw [isPrintable, Bool.not_eq_false', inRanges_iff increasing_hiddenRanges]

/-- Code points that say how a text is to be shown, in closed intervals: controls, the soft hyphen,
marks of direction, characters without a width, and the ends of lines and paragraphs. -/
def steeringRanges : List (Nat × Nat) :=
  [(0x0, 0x1f), (0x7f, 0x9f), (0xad, 0xad), (0x61c, 0x61c), (0x180e, 0x180e), (0x200b, 0x200f),
    (0x2028, 0x202e), (0x2060, 0x2064), (0x2066, 0x206f), (0xfeff, 0xfeff), (0xfff9, 0xfffb),
    (0xe0001, 0xe007f)]

def Steering (c : Char) : Prop := ∃ r ∈ steeringRanges, r.1 ≤ c.toNat ∧ c.toNat ≤ r.2

theorem not_isPrintable_of_steering {c : Char} (h : Steering c) : isPrintable c = false := by
  have hinside : ∀ r ∈ steeringRanges, ∃ a ∈ hiddenRanges, a.1 ≤ r.1 ∧ r.2 ≤ a.2 := by
    decide +kernel
  obtain ⟨r, hr, hlow, hhigh⟩ := h
  obtain ⟨a, ha, hbelow, habove⟩ := hinside r hr
  exact isPrintable_eq_false_iff.2 ⟨a, ha, Nat.le_trans hbelow hlow, Nat.le_trans hhigh habove⟩

/-- Every character of the text is copied to messages as it is. -/
def Printable (s : String) : Prop := ∀ c ∈ s.toList, isPrintable c = true

instance (s : String) : Decidable (Printable s) :=
  decidable_of_iff (s.toList.all isPrintable = true) List.all_eq_true

variable {s t : String}

theorem Printable.not_steering (h : Printable s) : ∀ c ∈ s.toList, ¬ Steering c := by
  intro c hc hsteering
  have hhidden := not_isPrintable_of_steering hsteering
  rw [h c hc] at hhidden
  cases hhidden

theorem Printable.append (hs : Printable s) (ht : Printable t) : Printable (s ++ t) := by
  intro c hc
  rw [String.toList_append, List.mem_append] at hc
  exact hc.elim (hs c) (ht c)

theorem Printable.intercalate {ts : List String} (hs : Printable s)
    (hts : ∀ t ∈ ts, Printable t) : Printable (s.intercalate ts) := by
  induction ts with
  | nil => exact fun c hc => by simp at hc
  | cons t rest ih =>
    obtain ⟨ht, hrest⟩ := List.forall_mem_cons.1 hts
    cases rest with
    | nil => simpa using ht
    | cons u rest =>
      rw [String.intercalate_cons_cons]
      exact (ht.append hs).append (ih hrest)

theorem isPrintable_digitChar : ∀ n, n < 16 → isPrintable n.digitChar = true := by decide

theorem isPrintable_of_mem_hexDigits {width n : Nat} :
    ∀ c ∈ hexDigits width n, isPrintable c = true := by
  induction width with
  | zero => exact List.forall_mem_nil _
  | succ width ih =>
    exact List.forall_mem_cons.2 ⟨isPrintable_digitChar _ (Nat.mod_lt _ (by decide)), ih⟩

theorem isPrintable_backslash : isPrintable backslash = true := by decide

theorem isPrintable_of_mem_numericEscape {n : Nat} :
    ∀ c ∈ numericEscape n, isPrintable c = true := by
  unfold numericEscape
  split_ifs
  all_goals
    refine List.forall_mem_cons.2 ⟨isPrintable_backslash, List.forall_mem_cons.2 ⟨by decide, ?_⟩⟩
    exact isPrintable_of_mem_hexDigits

/-- A character between quotes shows nothing but printable ones, whether or not it is one itself. -/
theorem isPrintable_of_mem_escaped {mark c : Char} (hm : isPrintable mark = true) :
    ∀ d ∈ escaped isPrintable mark c, isPrintable d = true := by
  have hshort : ∀ d, isPrintable d = true →
      ∀ x ∈ [backslash, d], isPrintable x = true := by
    intro d hd
    simp [isPrintable_backslash, hd]
  unfold escaped
  split_ifs with hmark hn hr ht hplain
  · refine hshort c ?_
    rcases hmark with rfl | rfl
    · exact hm
    · exact isPrintable_backslash
  · exact hshort _ (by decide)
  · exact hshort _ (by decide)
  · exact hshort _ (by decide)
  · simpa using hplain
  · exact isPrintable_of_mem_numericEscape

theorem isPrintable_quoteMark (cs : List Char) : isPrintable (quoteMark cs) = true := by
  unfold quoteMark
  split_ifs <;> decide

theorem printable_quoted (s : String) : Printable (quoted s) := by
  intro c hc
  have hmark := isPrintable_quoteMark s.toList
  rw [toList_quoted, enclosed, List.cons_append, List.mem_cons, List.mem_append,
    List.mem_singleton, List.mem_flatMap] at hc
  rcases hc with rfl | ⟨d, -, hd⟩ | rfl
  · exact hmark
  · exact isPrintable_of_mem_escaped hmark c hd
  · exact hmark

end EditorConfig.Text

import EditorConfig.Proofs.Plain
import EditorConfig.Text.Quoted
import EditorConfig.Text.Words

/-! What is required of whatever makes YAML documents of mappings. In block style, a mapping of bare
words is dumped as one line for every pair, in the order of the mapping, and a word stands between
single quotes exactly if its plain form would be read as something else. -/

namespace EditorConfig.Yaml

/-- A character that never ends or opens anything inside of a word. -/
def isWordChar (c : Char) : Bool := c.isAlphanum || c == '-' || c == '_'

/-- Digits only, or a letter with further characters of words. -/
def isBare : List Char → Bool
  | [] => false
  | c :: cs => (c :: cs).all Char.isDigit || (c.isAlpha && cs.all isWordChar)

/-- Words that are not what they look like: dumpers and readers disagree on those of one letter, and
the others stand for the absence of a value. -/
def exceptions : List String := oneLetterWords ++ ["null", "Null", "NULL"]

/-- A word that can stand in a document without quotes, unless it is read as something else. -/
def Bare (s : String) : Prop := isBare s.toList ∧ s ∉ exceptions

instance (s : String) : Decidable (Bare s) := inferInstanceAs (Decidable (_ ∧ _))

/-- Keys below this length are short enough to be followed by their values on the same line. -/
def keyLimit : Nat := 64

/-- A dumper of mappings that writes words as `scalar` says. -/
structure Dumps (dump : Dump) (scalar : String → String) : Prop where
  /-- The lines of the pairs stand one below the other. -/
  pairs {es : List (String × String)} : es ≠ [] → (es.map Prod.fst).Nodup →
    (∀ e ∈ es, (Bare e.1 ∧ e.1.length < keyLimit) ∧ Bare e.2) →
    dump .block es = String.join (es.map fun e => dump .block [e])
  /-- A pair is dumped on one line. -/
  pair {key value : String} : Bare key → key.length < keyLimit → Bare value →
    dump .block [(key, value)] = scalar key ++ ": " ++ scalar value ++ "\n"
  plain {s : String} : Bare s → (Scalar.ofPlain s).isText → scalar s = s
  quoted {s : String} : Bare s → ¬ (Scalar.ofPlain s).isText → scalar s = "'" ++ s ++ "'"

variable {s : String}

theorem Bare.isWordChar (h : Bare s) : ∀ c ∈ s.toList, isWordChar c := by
  have hbare := h.1
  cases hcs : s.toList with
  | nil => exact List.forall_mem_nil _
  | cons c cs =>
    rw [hcs, isBare, Bool.or_eq_true, Bool.and_eq_true] at hbare
    rcases hbare with hdigits | ⟨hc, hcs⟩
    · intro d hd
      have hdigit := List.all_eq_true.1 hdigits d hd
      simp [Yaml.isWordChar, Char.isAlphanum, hdigit]
    · exact List.forall_mem_cons.2
        ⟨by simp [Yaml.isWordChar, Char.isAlphanum, hc], List.all_eq_true.1 hcs⟩

theorem Bare.not_mem (h : Bare s) {c : Char} (hc : Yaml.isWordChar c = false) : c ∉ s.toList :=
  fun hmem => by simp [h.isWordChar c hmem] at hc

theorem Bare.ne_nil (h : Bare s) : s.toList ≠ [] := by
  intro hnil
  have hbare := h.1
  rw [hnil] at hbare
  cases hbare

theorem not_isBlank_of_isWordChar {c : Char} (h : isWordChar c) : Text.isBlank c = false := by
  have hupper : c.isUpper = decide (65 ≤ c.val ∧ c.val ≤ 90) := rfl
  have hlower : c.isLower = (decide (97 ≤ c.val) && decide (c.val ≤ 122)) := rfl
  have hdigit : c.isDigit = (decide (48 ≤ c.val) && decide (c.val ≤ 57)) := rfl
  have halpha : c.isAlpha = (c.isUpper || c.isLower) := rfl
  have hmarks : '-'.toNat = 45 ∧ '_'.toNat = 95 := ⟨rfl, rfl⟩
  have hc : c.val.toNat = c.toNat := rfl
  simp only [isWordChar, Char.isAlphanum, halpha, hupper, hlower, hdigit, Bool.or_eq_true,
    Bool.and_eq_true, decide_eq_true_eq, beq_iff_eq, ← Char.toNat_inj, UInt32.le_iff_toNat_le,
    UInt32.reduceToNat, hc] at h
  simp [Text.isBlank]
  omega

namespace Dumps

variable {dump : Dump} {scalar : String → String} (hd : Dumps dump scalar)

include hd

theorem scalar_eq (h : Bare s) :
    scalar s = if (Scalar.ofPlain s).isText then s else "'" ++ s ++ "'" := by
  split
  · exact hd.plain h ‹_›
  · exact hd.quoted h ‹_›

/-- A word is dumped without blanks at its end. -/
theorem exists_getLast? (h : Bare s) :
    ∃ c, (scalar s).toList.getLast? = some c ∧ Text.isBlank c = false := by
  rw [hd.scalar_eq h]
  split
  · have hlast := List.getLast?_eq_some_getLast h.ne_nil
    exact ⟨_, hlast, not_isBlank_of_isWordChar (h.isWordChar _ (List.getLast_mem h.ne_nil))⟩
  · have hquoted : ("'" ++ s ++ "'").toList =
        (Text.singleQuote :: s.toList) ++ [Text.singleQuote] := by
      simp [Text.singleQuote]
    exact ⟨Text.singleQuote, by rw [hquoted, List.getLast?_concat], by decide⟩

end Dumps

/-- Stripping the blanks at the end of a line takes away the line feed that ends it. -/
theorem stripped_append_newline {c : Char} (h : s.toList.getLast? = some c)
    (hc : Text.isBlank c = false) : Text.stripped (s ++ "\n") = s := by
  have hblank : Text.isBlank '\n' = true := by decide
  obtain ⟨front, hfront⟩ := List.getLast?_eq_some_iff.1 h
  rw [Text.stripped, String.toList_append, hfront]
  have hreversed : (front ++ [c] ++ "\n".toList).reverse = '\n' :: c :: front.reverse := by simp
  rw [hreversed, List.dropWhile_cons, if_pos hblank, List.dropWhile_cons, if_neg (by simp [hc]),
    List.reverse_cons, List.reverse_reverse, ← hfront, String.ofList_toList]

/-- The dumper of lines. -/
theorem dumps_dump : Dumps dump scalar where
  pairs _ _ _ := by simp [dump, String.join]
  pair _ _ _ := by simp [dump, line, String.join]
  plain {s} h hs := by
    have hword : s ∉ oneLetterWords := fun hmem => h.2 (List.mem_append_left _ hmem)
    simp [scalar, needsQuotes_eq hword, hs]
  quoted {s} h hs := by
    have hword : s ∉ oneLetterWords := fun hmem => h.2 (List.mem_append_left _ hmem)
    simp [scalar, needsQuotes_eq hword, hs]

end EditorConfig.Yaml

import EditorConfig.Proofs.Literals
import EditorConfig.Proofs.Taken

/-! Effective sizes. An indentation by tabs is as wide as a tab, and a tab without a width is as
wide as an indentation, so each of the two sizes falls back on the field of the other one. Settings
in which both are filled in can be built, and have nothing more to be filled in. -/

namespace EditorConfig

/-- A number of columns in the range of unsigned integers. -/
def Value.IsSize (v : Value) : Prop := ∃ n : Nat, v = .int n ∧ n ≤ Uint.max

namespace StandardProperty

variable {p : StandardProperty} {t : String} {v : Value}

theorem spells_of_isSize (hp : p.rule.primitive? = some .uint) (hv : v.IsSize) :
    ∃ t, p.Spells t v := by
  obtain ⟨n, rfl, hn⟩ := hv
  exact ⟨toString n, .number hp hn⟩

theorem isSize_of_spells (hp : p.rule.primitive? = some .uint) (h : p.Spells t v) :
    (v = .explicitNone ∧ p.rule.sentinel? = some t) ∨ v.IsSize := by
  rcases (spells_iff_of_primitive hp).1 h with hsentinel | hnumber
  · exact .inl hsentinel
  · obtain ⟨n, rfl, hn, -⟩ := Primitive.parse?_uint_eq_some_iff.1 hnumber
    exact .inr ⟨n, rfl, hn⟩

/-- What a field is given if it is to hold a value: this value or a text for it, or the null value
if it is to stay unset. -/
inductive Denotes (p : StandardProperty) : Value → Option Value → Prop
  | unset : p.Denotes .null none
  | typed (v : Value) : p.Denotes v (some v)
  | text {t : String} {v : Value} : p.Spells t v → p.Denotes (.text t) (some v)

end StandardProperty

theorem Catalog.Sound.accept_of_denotes {cat : Catalog} (h : cat.Sound) {p : StandardProperty}
    {w : Value} {found : Option Value} (hw : p.Denotes w found)
    (hf : ∀ v, found = some v → ∃ t, p.Spells t v) : (cat.standard p).accept w = .ok found := by
  cases hw with
  | unset => rfl
  | typed =>
    obtain ⟨t, ht⟩ := hf _ rfl
    exact PropertyClass.accept_of_parse (h.follows_standard p) (h.parse_standard_iff.2 ht)
  | text ht => exact PropertyClass.accept_text_eq_ok_iff.2 ⟨_, rfl, h.parse_standard_iff.2 ht⟩

namespace Settings

variable {cat : Catalog} {s : Settings} {v : Value}

/-- Whichever way their values are given, settings are built from them. -/
theorem ofMapping_of_denotes (h : cat.Sound) {data : List (String × Value)}
    (hdata : ∀ p : StandardProperty, p.Denotes (fieldOf data p) (s.value p))
    (hs : ∀ p v, s.value p = some v → ∃ t, p.Spells t v) :
    ofMapping cat (Value.keyed data) = .ok s := by
  have haccept : ∀ p, (cat.standard p).accept (fieldOf data p) = .ok (s.value p) :=
    fun p => h.accept_of_denotes (hdata p) (hs p)
  exact ofMapping_keyed_eq_ok.2 (ofFields_eq_ok haccept)

/-- All fields with their keys and values, in catalog order. -/
def fields (s : Settings) : List (String × Value) :=
  StandardProperty.all.map fun p => (p.key, (s.value p).getD .null)

theorem fieldOf_fields (s : Settings) (p : StandardProperty) :
    fieldOf s.fields p = (s.value p).getD .null := by
  cases p <;> rfl

theorem denotes_fields (s : Settings) (p : StandardProperty) :
    p.Denotes (fieldOf s.fields p) (s.value p) := by
  rw [fieldOf_fields]
  cases s.value p with
  | none => exact .unset
  | some v => exact .typed v

/-- The settings with the two sizes in place of what they are taken from. -/
def filled (s : Settings) : Settings where
  value
    | .indentSize => s.effectiveIndentSize
    | .tabWidth => s.effectiveTabWidth
    | p => s.value p

theorem effectiveIndentSize_filled (s : Settings) :
    s.filled.effectiveIndentSize = s.effectiveIndentSize := by
  unfold filled effectiveIndentSize effectiveTabWidth
  cases hi : s.value .indentSize with
  | none => rfl
  | some v =>
    cases v with
    | explicitNone =>
      cases ht : s.value .tabWidth with
      | none => rfl
      | some w => cases w <;> rfl
    | _ => rfl

theorem effectiveTabWidth_filled (s : Settings) :
    s.filled.effectiveTabWidth = s.effectiveTabWidth := by
  unfold filled effectiveTabWidth effectiveIndentSize
  cases ht : s.value .tabWidth with
  | some w => rfl
  | none =>
    cases hi : s.value .indentSize with
    | none => rfl
    | some v => cases v <;> rfl

theorem filled_filled (s : Settings) : s.filled.filled = s.filled := by
  refine Settings.ext (funext fun p => ?_)
  cases p with
  | indentSize => exact s.effectiveIndentSize_filled
  | tabWidth => exact s.effectiveTabWidth_filled
  | _ => rfl

/-- Every value that produced settings hold has a text. -/
theorem Produced.exists_spells (hs : s.Produced) {p : StandardProperty} (hv : s.value p = some v) :
    ∃ t, p.Spells t v := by
  obtain ⟨t, ht⟩ := hs.exists_parse Catalog.sound_initial hv
  exact ⟨t, Catalog.sound_initial.parse_standard_iff.1 ht⟩

theorem Produced.isSize_tabWidth (hs : s.Produced) (hv : s.value .tabWidth = some v) :
    v.IsSize := by
  obtain ⟨t, ht⟩ := hs.exists_spells hv
  rcases StandardProperty.isSize_of_spells rfl ht with ⟨-, hsentinel⟩ | hsize
  · cases hsentinel
  · exact hsize

theorem Produced.isSize_indentSize (hs : s.Produced) (hv : s.value .indentSize = some v)
    (hne : v ≠ .explicitNone) : v.IsSize := by
  obtain ⟨t, ht⟩ := hs.exists_spells hv
  exact (StandardProperty.isSize_of_spells rfl ht).resolve_left fun h => hne h.1

theorem effectiveIndentSize_of_tab (h : s.value .indentSize = some .explicitNone) :
    s.effectiveIndentSize = s.value .tabWidth := by
  rw [effectiveIndentSize, h]

theorem effectiveIndentSize_of_ne_tab (h : s.value .indentSize ≠ some .explicitNone) :
    s.effectiveIndentSize = s.value .indentSize := by
  rw [effectiveIndentSize]
  split
  · exact absurd ‹_› h
  · rfl

theorem effectiveTabWidth_of_isSome (h : s.value .tabWidth = some v) :
    s.effectiveTabWidth = some v := by
  rw [effectiveTabWidth, h]

theorem effectiveTabWidth_of_tab (h : s.value .indentSize = some .explicitNone) :
    s.effectiveTabWidth = s.value .tabWidth := by
  rw [effectiveTabWidth, h]
  cases s.value .tabWidth <;> rfl

/-- A tab without a width is as wide as an indentation by a number of columns. -/
theorem Produced.effectiveTabWidth_of_ne_tab (hs : s.Produced) (ht : s.value .tabWidth = none)
    (hi : s.value .indentSize ≠ some .explicitNone) :
    s.effectiveTabWidth = s.value .indentSize := by
  rw [effectiveTabWidth, ht]
  cases hv : s.value .indentSize with
  | none => rfl
  | some v =>
    obtain ⟨n, rfl, -⟩ := hs.isSize_indentSize hv (fun he => hi (he ▸ hv))
    rfl

theorem Produced.isSize_effectiveIndentSize (hs : s.Produced)
    (hv : s.effectiveIndentSize = some v) : v.IsSize := by
  by_cases hi : s.value .indentSize = some .explicitNone
  · rw [effectiveIndentSize_of_tab hi] at hv
    exact hs.isSize_tabWidth hv
  · rw [effectiveIndentSize_of_ne_tab hi] at hv
    exact hs.isSize_indentSize hv (fun he => hi (he ▸ hv))

theorem Produced.isSize_effectiveTabWidth (hs : s.Produced)
    (hv : s.effectiveTabWidth = some v) : v.IsSize := by
  cases ht : s.value .tabWidth with
  | some w =>
    rw [effectiveTabWidth_of_isSome ht] at hv
    exact hs.isSize_tabWidth (ht.trans hv)
  | none =>
    by_cases hi : s.value .indentSize = some .explicitNone
    · rw [effectiveTabWidth_of_tab hi] at hv
      exact hs.isSize_tabWidth hv
    · rw [hs.effectiveTabWidth_of_ne_tab ht hi] at hv
      exact hs.isSize_indentSize hv (fun he => hi (he ▸ hv))

theorem Produced.effectiveIndentSize_eq_none (hs : s.Produced)
    (h : s.effectiveTabWidth = none) : s.effectiveIndentSize = none := by
  by_cases hi : s.value .indentSize = some .explicitNone
  · rw [effectiveIndentSize_of_tab hi, ← effectiveTabWidth_of_tab hi, h]
  · have ht : s.value .tabWidth = none := by
      by_contra hne
      obtain ⟨w, hw⟩ := Option.ne_none_iff_exists'.1 hne
      simp [effectiveTabWidth_of_isSome hw] at h
    rw [effectiveIndentSize_of_ne_tab hi, ← hs.effectiveTabWidth_of_ne_tab ht hi, h]

/-- Filling in the sizes leaves nothing in the fields that has no text. -/
theorem Produced.exists_spells_filled (hs : s.Produced) (p : StandardProperty) (v : Value)
    (hv : s.filled.value p = some v) : ∃ t, p.Spells t v := by
  cases p with
  | indentSize => exact StandardProperty.spells_of_isSize rfl (hs.isSize_effectiveIndentSize hv)
  | tabWidth => exact StandardProperty.spells_of_isSize rfl (hs.isSize_effectiveTabWidth hv)
  | _ => exact hs.exists_spells hv

/-- The two sizes are numbers in range that agree with each other, and settings in which they are
filled in can be built, from values and from texts, and stay as they are when filled in again. -/
theorem Produced.sizes_coherent (hs : s.Produced) (h : cat.Reachable) :
    (∀ v, s.effectiveIndentSize = some v → ∃ n : Nat, v = .int n ∧ n ≤ Uint.max) ∧
    (∀ v, s.effectiveTabWidth = some v → ∃ n : Nat, v = .int n ∧ n ≤ Uint.max) ∧
    (s.effectiveTabWidth = none → s.effectiveIndentSize = none) ∧
    (s.value .indentSize = some .explicitNone → s.effectiveIndentSize = s.effectiveTabWidth) ∧
    ofMapping cat (Value.keyed s.filled.fields) = .ok s.filled ∧
    (∀ data : List (String × Value),
      (∀ p : StandardProperty, p.Denotes (fieldOf data p) (s.filled.value p)) →
      ofMapping cat (Value.keyed data) = .ok s.filled) ∧
    s.filled.effectiveIndentSize = s.effectiveIndentSize ∧
    s.filled.effectiveTabWidth = s.effectiveTabWidth ∧
    s.filled.filled = s.filled := by
  have hbuilt : ∀ data : List (String × Value),
      (∀ p : StandardProperty, p.Denotes (fieldOf data p) (s.filled.value p)) →
      ofMapping cat (Value.keyed data) = .ok s.filled :=
    fun data hdata => ofMapping_of_denotes h.sound hdata hs.exists_spells_filled
  refine ⟨fun v hv => hs.isSize_effectiveIndentSize hv, fun v hv => hs.isSize_effectiveTabWidth hv,
    hs.effectiveIndentSize_eq_none, fun hi => ?_, hbuilt _ s.filled.denotes_fields, hbuilt,
    s.effectiveIndentSize_filled, s.effectiveTabWidth_filled, s.filled_filled⟩
  rw [effectiveIndentSize_of_tab hi, effectiveTabWidth_of_tab hi]

/-- The entries of settings with an indentation by tabs of no width, the sizes filled in as a value
and as a text. -/
def widthlessData : List (String × Value) :=
  [("tab_width", .text "0"), ("trim_trailing_whitespace", .bool false), ("root", .null),
    ("max_line_length", .text "18446744073709551615"), ("indent_size", .int 0),
    ("end_of_line", .text "cr"), ("charset", .null)]

/-- Zero is a width like any other. -/
theorem Produced.sizes_coherent_zero :
    ∃ s, ofMapping Catalog.initial mixedEntries = .ok s ∧ s.Produced ∧ Catalog.twice.Reachable ∧
      s.value .indentSize = some .explicitNone ∧ s.effectiveIndentSize = some (.int 0) ∧
      s.effectiveTabWidth = some (.int 0) ∧
      ofMapping Catalog.twice (Value.keyed widthlessData) = .ok s.filled ∧
      s.filled.effectiveIndentSize = some (.int 0) := by
  obtain ⟨s, hs, hi, hwidth, hdata⟩ : ∃ s, ofMapping Catalog.initial mixedEntries = .ok s ∧
      s.value .indentSize = some .explicitNone ∧ s.effectiveTabWidth = some (.int 0) ∧
      (∀ p : StandardProperty, p.Denotes (fieldOf widthlessData p) (s.filled.value p)) := by
    refine ⟨_, rfl, rfl, rfl, fun p => ?_⟩
    cases p with
    | tabWidth => exact .text (.number (n := 0) rfl (by decide))
    | maxLineLength => exact .text (.number (n := 18446744073709551615) rfl (by decide))
    | endOfLine =>
      refine .text ((StandardProperty.spells_iff_of_enumeration rfl).2 ⟨_, ?_, rfl, rfl⟩)
      decide
    | indentStyle | charset | finalNewline => exact .unset
    | _ => exact .typed _
  have hproduced : s.Produced := .built .initial hs
  obtain ⟨-, -, -, hequal, -, hbuilt, hsame, -⟩ :=
    hproduced.sizes_coherent Catalog.reachable_twice
  have hindent := (hequal hi).trans hwidth
  exact ⟨s, hs, hproduced, Catalog.reachable_twice, hi, hindent, hwidth,
    hbuilt widthlessData hdata, hsame.trans hindent⟩

end Settings

end EditorConfig

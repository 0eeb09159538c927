import EditorConfig.Lookup
import EditorConfig.Proofs.Strictness

/-! A look-up of one property against the resolution of all entries. The look-up goes by the latest
key of the property, the resolution by the keys of the entries; both come to the same verdict on the
entry of that key. -/

namespace EditorConfig

namespace Properties

theorem lookup?_eq_some_iff {raw : Properties} {key s : String} :
    raw.lookup? key = some s ↔ (key, s) ∈ raw.entries :=
  Entries.lookup_eq_some_iff_mem raw.nodup

theorem lookup?_eq_none_iff {raw : Properties} {key : String} :
    raw.lookup? key = none ↔ key ∉ raw.entries.map Prod.fst :=
  Entries.lookup_eq_none_iff_not_mem

/-- A mapping of texts holds under a text what its entries list. -/
theorem entry?_mapping (raw : Properties) (key : String) :
    Value.entry? key raw.mapping = (raw.lookup? key).map .text :=
  Value.entry?_map .text key raw.entries

end Properties

namespace PropertyClass

variable {c : PropertyClass} {j s : String} {raw : Properties}

theorem read_text (c : PropertyClass) (s : String) : c.read (.text s) = c.parse s := rfl

theorem lookup_of_absent (hj : c.key = some j) (h : raw.lookup? j = none) :
    c.lookup raw.mapping = .error (.notSet j) := by
  simp [lookup, require, hj, Properties.entry?_mapping, h, bind, Except.bind]

theorem lookup_of_unrecognized (hj : c.key = some j) (h : raw.lookup? j = some s)
    (hs : c.parse s = .ok none) :
    c.lookup raw.mapping = .error (.unrecognized j (.text s)) := by
  simp [lookup, require, hj, Properties.entry?_mapping, h, read_text, hs, bind, Except.bind]

theorem lookup_of_recognized (hj : c.key = some j) (h : raw.lookup? j = some s) {v : Value}
    (hs : c.parse s = .ok (some v)) : c.lookup raw.mapping = .ok v := by
  simp [lookup, require, hj, Properties.entry?_mapping, h, read_text, hs, bind, Except.bind, pure,
    Except.pure]

end PropertyClass

namespace Catalog

theorem get_key {cat : Catalog} {key : String} {c : PropertyClass}
    (h : cat.property? key = some c) (entries : List (Value × Value)) :
    cat.get entries (.key key) = c.lookup entries := by
  rw [get, find, property, h]
  rfl

theorem get_named {cat : Catalog} {ref : ClassRef} {c : PropertyClass}
    (h : cat.class? ref = some c) (entries : List (Value × Value)) :
    cat.get entries (.named ref) = c.lookup entries := by
  rw [get, find, classOf, h]
  rfl

theorem get_unknown {cat : Catalog} {key : String} (h : cat.ref? key = none)
    (entries : List (Value × Value)) :
    cat.get entries (.key key) = .error (.unknownProperty key) := by
  rw [get, find, property, property?, h]
  rfl

/-- The resolution finds a text unrecognized where the property of the key does not read it. -/
theorem mem_filter_rejects_iff {cat : Catalog} {j s : String} {c : PropertyClass}
    (hc : cat.property? j = some c) {raw : Properties} :
    (j, s) ∈ raw.entries.filter cat.rejects ↔
      raw.lookup? j = some s ∧ c.parse s = .ok none := by
  rw [List.mem_filter, rejects_iff, Properties.lookup?_eq_some_iff]
  refine and_congr_right fun _ => ?_
  constructor
  · rintro ⟨d, hd, hs⟩
    rw [hc] at hd
    cases hd
    exact hs
  · exact fun hs => ⟨c, hc, hs⟩

/-- There are three verdicts on a property: not set, not recognized, or a value. Its entry, if there
is one, must be one that the property can read. -/
theorem Sound.lookup_cases {cat : Catalog} (h : cat.Sound) {raw : Properties} {j : String}
    {c : PropertyClass} (hl : j ∈ raw.entries.map Prod.fst → c.Legible)
    (hc : cat.property? j = some c) (hj : c.key = some j) :
    (raw.lookup? j = none ∧ c.lookup raw.mapping = .error (.notSet j)) ∨
    (∃ s, raw.lookup? j = some s ∧ c.parse s = .ok none ∧
      c.lookup raw.mapping = .error (.unrecognized j (.text s))) ∨
    ∃ s v, raw.lookup? j = some s ∧ c.parse s = .ok (some v) ∧ c.lookup raw.mapping = .ok v := by
  cases hs : raw.lookup? j with
  | none => exact .inl ⟨rfl, PropertyClass.lookup_of_absent hj hs⟩
  | some s =>
    have hlegible : c.Legible := hl (List.mem_map_of_mem (Properties.lookup?_eq_some_iff.1 hs))
    obtain ⟨found, hf⟩ := h.exists_parse hc hlegible s
    cases found with
    | none => exact .inr (.inl ⟨s, rfl, hf, PropertyClass.lookup_of_unrecognized hj hs hf⟩)
    | some v => exact .inr (.inr ⟨s, v, rfl, hf, PropertyClass.lookup_of_recognized hj hs hf⟩)

section Verdicts

variable {cat : Catalog} (h : cat.Sound) {raw : Properties} {j : String} {c : PropertyClass}
  (hl : j ∈ raw.entries.map Prod.fst → c.Legible) (hc : cat.property? j = some c)
  (hj : c.key = some j)

include h hl hc hj

theorem Sound.lookup_eq_notSet_iff {i : String} :
    c.lookup raw.mapping = .error (.notSet i) ↔ i = j ∧ raw.lookup? j = none := by
  rcases h.lookup_cases hl hc hj with ⟨hs, hlookup⟩ | ⟨s, hs, hparse, hlookup⟩ |
    ⟨s, v, hs, hparse, hlookup⟩
  · simp [hlookup, hs, eq_comm]
  · simp [hlookup, hs]
  · simp [hlookup, hs]

theorem Sound.lookup_eq_unrecognized_iff {i : String} {w : Value} :
    c.lookup raw.mapping = .error (.unrecognized i w) ↔
      i = j ∧ ∃ s, w = .text s ∧ raw.lookup? j = some s ∧ c.parse s = .ok none := by
  rcases h.lookup_cases hl hc hj with ⟨hs, hlookup⟩ | ⟨s, hs, hparse, hlookup⟩ |
    ⟨s, v, hs, hparse, hlookup⟩
  · simp [hlookup, hs]
  · rw [hlookup]
    constructor
    · intro he
      cases he
      exact ⟨rfl, s, rfl, hs, hparse⟩
    · rintro ⟨rfl, t, rfl, ht, -⟩
      rw [hs] at ht
      cases ht
      rfl
  · simp only [hlookup, reduceCtorEq, false_iff]
    rintro ⟨-, t, -, ht, hnone⟩
    rw [hs] at ht
    cases ht
    rw [hparse] at hnone
    cases hnone

/-- Only the two failures that are replaced by a default occur. -/
theorem Sound.orDefault_lookup (d : Value) :
    orDefault d (c.lookup raw.mapping) = .ok ((c.lookup raw.mapping).toOption.getD d) := by
  rcases h.lookup_cases hl hc hj with ⟨-, hlookup⟩ | ⟨s, -, -, hlookup⟩ |
    ⟨s, v, -, -, hlookup⟩ <;> rw [hlookup] <;> rfl

theorem Sound.exists_lookup {s : String} (hs : raw.lookup? j = some s)
    (hread : c.parse s ≠ .ok none) :
    ∃ v, c.parse s = .ok (some v) ∧ c.lookup raw.mapping = .ok v := by
  rcases h.lookup_cases hl hc hj with ⟨hn, -⟩ | ⟨t, ht, hparse, -⟩ | ⟨t, v, ht, hparse, hlookup⟩
  · rw [hs] at hn
    cases hn
  · obtain rfl := Option.some.inj (hs.symm.trans ht)
    exact absurd hparse hread
  · obtain rfl := Option.some.inj (hs.symm.trans ht)
    exact ⟨v, hparse, hlookup⟩

end Verdicts

/-- The value that a look-up returns is the one that the settings hold. -/
theorem recognizedSettings_value {cat : Catalog} {raw : Properties} {p : StandardProperty}
    {c : PropertyClass} {s : String} {v : Value} (hc : cat.property? p.key = some c)
    (hs : raw.lookup? p.key = some s) (hv : c.parse s = .ok (some v)) :
    (cat.recognizedSettings raw).value p = some v := by
  have hvalue : cat.recognized? p.key s = some v := by
    rw [recognized?, hc, Option.bind_some, hv]
    rfl
  exact Option.bind_eq_some_iff.2 ⟨s, hs, hvalue⟩

/-- Looking up a property agrees with resolving all properties. -/
theorem get_agrees {cat : Catalog} (h : cat.Reachable) (raw : Properties) :
    ((∃ r, (cat.resolve false raw.toValue).result = .ok r) ↔ cat.Reads raw.entries) ∧
      (∀ k, cat.ref? k = none →
        cat.get raw.mapping (.key k) = .error (.unknownProperty k) ∧
        (∀ d, cat.getOr raw.mapping (.key k) d = .error (.unknownProperty k)) ∧
        ∀ r, (cat.resolve false raw.toValue).result = .ok r →
          (k ∈ r.unknownKeys ↔ k ∈ raw.entries.map Prod.fst)) ∧
      ∀ k ref, cat.ref? k = some ref →
        ∃ c j, cat.class? ref = some c ∧ c.key = some j ∧
          (cat.keysOf ref).getLast? = some j ∧ cat.ref? j = some ref ∧
          cat.get raw.mapping (.key k) = cat.get raw.mapping (.named ref) ∧
          ((j ∈ raw.entries.map Prod.fst → c.Legible) →
            (∀ i, cat.get raw.mapping (.key k) = .error (.notSet i) ↔
              i = j ∧ j ∉ raw.entries.map Prod.fst) ∧
            (∀ i w, cat.get raw.mapping (.key k) = .error (.unrecognized i w) ↔
              i = j ∧ ∃ s, w = .text s ∧ raw.lookup? j = some s ∧ c.parse s = .ok none) ∧
            (∀ s, raw.lookup? j = some s → c.parse s ≠ .ok none →
              ∃ v, c.parse s = .ok (some v) ∧ v ≠ .null ∧
                cat.get raw.mapping (.key k) = .ok v) ∧
            ∀ d, cat.getOr raw.mapping (.key k) d =
              .ok ((cat.get raw.mapping (.key k)).toOption.getD d)) ∧
          ∀ r, (cat.resolve false raw.toValue).result = .ok r →
            (∀ i w, cat.get raw.mapping (.key k) = .error (.unrecognized i w) ↔
              i = j ∧ ∃ s, w = .text s ∧ (j, s) ∈ r.unrecognized) ∧
            ∀ (p : StandardProperty) (v : Value), p.key = j →
              cat.get raw.mapping (.key k) = .ok v → r.settings.value p = some v := by
  have hsound := h.sound
  refine ⟨exists_resolve_iff h, fun k hk => ⟨get_unknown hk _, fun d => ?_, fun r hr => ?_⟩,
    fun k ref href => ?_⟩
  · rw [getOr, get_unknown hk]
    rfl
  · have hfree : k ∉ cat.registry.map Prod.fst := Entries.lookup_eq_none_iff_not_mem.1 hk
    obtain rfl := eq_of_resolve_eq_ok h hr
    rw [resolution, List.mem_filter]
    simp [hfree]
  · obtain ⟨c, j, hc, hj, hlast, hback⟩ := hsound.exists_latest href
    have hproperty : ∀ i, cat.ref? i = some ref → cat.property? i = some c :=
      fun i hi => Option.bind_eq_some_iff.2 ⟨ref, hi, hc⟩
    have hget : cat.get raw.mapping (.key k) = c.lookup raw.mapping := get_key (hproperty k href) _
    -- The keys `k` and `j` have the same property, so all that is said about `j` holds for `k`.
    have hcj : cat.property? j = some c := hproperty j hback
    refine ⟨c, j, hc, hj, hlast, hback, hget.trans (get_named hc _).symm, fun hl => ?_,
      fun r hr => ?_⟩
    · simp only [hget, getOr, ← Properties.lookup?_eq_none_iff]
      refine ⟨fun i => hsound.lookup_eq_notSet_iff hl hcj hj,
        fun i w => hsound.lookup_eq_unrecognized_iff hl hcj hj, fun s hs hread => ?_,
        hsound.orDefault_lookup hl hcj hj⟩
      obtain ⟨v, hparse, hlookup⟩ := hsound.exists_lookup hl hcj hj hs hread
      refine ⟨v, hparse, ?_, hlookup⟩
      rintro rfl
      exact c.parse_ne_null s hparse
    · have hreads := reads_of_resolve hsound hr
      have hl : j ∈ raw.entries.map Prod.fst → c.Legible := by
        intro hmem
        obtain ⟨e, he, rfl⟩ := List.mem_map.1 hmem
        exact hreads e he c hcj
      obtain rfl := eq_of_resolve_eq_ok h hr
      simp only [hget, resolution, mem_filter_rejects_iff hcj]
      refine ⟨fun i w => hsound.lookup_eq_unrecognized_iff hl hcj hj, ?_⟩
      rintro p v rfl hv
      rcases hsound.lookup_cases hl hcj hj with ⟨-, hlookup⟩ | ⟨s, -, -, hlookup⟩ |
        ⟨s, w, hs, hparse, hlookup⟩ <;> rw [hv] at hlookup <;> cases hlookup
      exact recognizedSettings_value hcj hs hparse

/-- The look-up by an earlier key is about the entry of the latest one. -/
theorem get_agrees_twice :
    twice.Reachable ∧ twice.Reads twiceProperties.entries ∧ ∃ r : Resolution,
      (twice.resolve false twiceProperties.toValue).result = .ok r ∧
      twice.get twiceProperties.mapping (.key "root") = .error (.unknownProperty "root") ∧
      "root" ∈ r.unknownKeys ∧
      twice.get twiceProperties.mapping (.key "wrap_column") =
        .error (.unrecognized "wrap" (.text "80")) ∧
      ("wrap", "80") ∈ r.unrecognized ∧
      (∀ d, twice.getOr twiceProperties.mapping (.key "wrap_column") d = .ok d) ∧
      twice.get twiceProperties.mapping (.key "indent_size") = .ok .explicitNone ∧
      r.settings.value .indentSize = some .explicitNone := by
  have hreads : twice.Reads twiceProperties.entries := by decide +kernel
  have hwrap : twice.get twiceProperties.mapping (.key "wrap_column") =
      .error (.unrecognized "wrap" (.text "80")) := rfl
  have hsize : twice.get twiceProperties.mapping (.key "indent_size") = .ok .explicitNone := rfl
  obtain ⟨hreturns, hfree, hregistered⟩ := get_agrees reachable_twice twiceProperties
  obtain ⟨r, hrun⟩ := hreturns.2 hreads
  obtain ⟨hroot, -, hunknown⟩ := hfree "root" (by decide +kernel)
  obtain ⟨c, j, hc, -, -, -, -, hverdicts, hresolved⟩ :=
    hregistered "wrap_column" (.custom 0) (by decide +kernel)
  have hlegible : c.Legible := by
    cases hc
    decide +kernel
  obtain ⟨-, -, -, hdefault⟩ := hverdicts fun _ => hlegible
  obtain ⟨rfl, s, hs, hmem⟩ := ((hresolved r hrun).1 _ _).1 hwrap
  cases hs
  refine ⟨reachable_twice, hreads, r, hrun, hroot, (hunknown r hrun).2 (by decide), hwrap, hmem,
    fun d => ?_, hsize, ?_⟩
  · rw [hdefault, hwrap]
    rfl
  · obtain ⟨c, j, hc, hj, -, -, -, -, hfields⟩ :=
      hregistered "indent_size" (.standard .indentSize) (by decide +kernel)
    cases hc
    obtain rfl : "indent_size" = j := Option.some.inj hj
    exact (hfields r hrun).2 .indentSize _ rfl hsize

/-- Where members have an empty slot in place of texts, a look-up has none of the verdicts. -/
theorem not_get_agrees_slotted :
    slotted.Reachable ∧ (∀ c ∈ slotted.custom, c.Unhidden) ∧
      slotted.ref? "mode" = some (.custom 0) ∧
      slotted.get slottedProperties.mapping (.key "mode") = .error (.unfilled textTrait) ∧
      ∀ d, slotted.getOr slottedProperties.mapping (.key "mode") d =
        .error (.unfilled textTrait) :=
  ⟨reachable_enumerated _, unhidden_slotted, by decide +kernel, rfl, fun _ => rfl⟩

end Catalog

end EditorConfig

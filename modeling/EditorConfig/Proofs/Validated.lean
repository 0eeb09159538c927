import EditorConfig.Validation
import EditorConfig.Proofs.Agreement
import EditorConfig.Proofs.Spelling
import EditorConfig.Proofs.Strictness

/-! Validation against resolution. Validation goes through the standard properties and looks into
the entries, resolution goes through the entries and looks into the catalog; the reports of the one
are the warnings of the other about standard properties, in another order. -/

namespace EditorConfig

namespace Catalog

variable {cat : Catalog} {raw : Properties}

/-- The text of a standard property that is not recognized. -/
def rejectedText? (cat : Catalog) (raw : Properties) (p : StandardProperty) : Option String :=
  (raw.lookup? p.key).filter fun s => cat.rejects (p.key, s)

theorem rejectedText?_eq_some_iff (p : StandardProperty) (s : String) :
    cat.rejectedText? raw p = some s ↔ (p.key, s) ∈ raw.entries.filter cat.rejects := by
  rw [rejectedText?, Option.filter_eq_some_iff, List.mem_filter, Properties.lookup?_eq_some_iff]

theorem check_eq (h : cat.Reachable) (raw : Properties) (p : StandardProperty) :
    cat.check raw p = .ok ((cat.rejectedText? raw p).map fun s =>
      "Unrecognized value for " ++ p.key ++ ": " ++ Text.quoted s) := by
  have hp := h.property?_key p
  unfold check rejectedText?
  cases hs : raw.lookup? p.key with
  | none => rfl
  | some s =>
    obtain ⟨found, hf⟩ := h.sound.exists_parse hp (h.sound.legible_standard p) s
    cases found with
    | none =>
      have hrejects : cat.rejects (p.key, s) = true := rejects_iff.2 ⟨_, hp, hf⟩
      simp [hf, hrejects, unrecognizedText_text, Option.filter_some, bind, Except.bind, pure,
        Except.pure]
    | some v =>
      have hrejects : cat.rejects (p.key, s) = false := by simp [rejects, hp, hf]
      simp [hf, hrejects, Option.filter_some, bind, Except.bind, pure, Except.pure]

/-- Validation never fails, and reports on the standard properties in catalog order. -/
theorem validate_eq (h : cat.Reachable) (raw : Properties) :
    cat.validate raw.toValue = .ok ((StandardProperty.listed (cat.rejectedText? raw)).map fun e =>
      "Unrecognized value for " ++ e.1 ++ ": " ++ Text.quoted e.2) := by
  have hcheck : cat.check raw = fun p => pure ((cat.rejectedText? raw p).map fun s =>
      "Unrecognized value for " ++ p.key ++ ": " ++ Text.quoted s) := by
    funext p
    exact check_eq h raw p
  rw [validate, Value.properties_toValue]
  simp only [hcheck, List.mapM_pure]
  change Except.ok _ = _
  rw [List.filterMap_map, StandardProperty.listed, List.map_filterMap]
  simp [Function.comp_def]

/-- A registered key has the shape of a key. -/
theorem Sound.isKey_of_property? (h : cat.Sound) {key : String} {c : PropertyClass}
    (hc : cat.property? key = some c) : isKey key := by
  obtain ⟨⟨j, ref⟩, hmem, rfl⟩ := List.mem_map.1 (mem_registry_of_property? h hc)
  exact h.shaped _ hmem

section Standard

/- No key of the entries is registered besides the standard ones. -/
variable (hs : ∀ e ∈ raw.entries, e.1 ∈ cat.registry.map Prod.fst →
  (StandardProperty.ofKey? e.1).isSome)

include hs

theorem Reachable.reads_of_standard (h : cat.Reachable) : cat.Reads raw.entries := by
  intro e he c hc
  have hkey := hs e he (mem_registry_of_property? h.sound hc)
  obtain ⟨p, hp⟩ := StandardProperty.isSome_ofKey?_iff.1 hkey
  rw [← hp, h.property?_key p] at hc
  obtain rfl := Option.some.inj hc
  exact h.sound.legible_standard p

theorem filter_rejects_of_standard (h : cat.Sound) :
    (raw.entries.filter cat.rejects).filter (fun e => (StandardProperty.ofKey? e.1).isSome) =
      raw.entries.filter cat.rejects := by
  refine List.filter_eq_self.2 fun e he => ?_
  obtain ⟨hmem, hrejects⟩ := List.mem_filter.1 he
  obtain ⟨c, hc, -⟩ := rejects_iff.1 hrejects
  exact hs e hmem (mem_registry_of_property? h hc)

end Standard

/-- Validation reports what resolution rejects under standard keys. -/
theorem perm_rejectedText? :
    (StandardProperty.listed (cat.rejectedText? raw)).Perm
      ((raw.entries.filter cat.rejects).filter fun e => (StandardProperty.ofKey? e.1).isSome) :=
  StandardProperty.perm_listed ((raw.nodup.of_map Prod.fst).filter _) rejectedText?_eq_some_iff

/-- Validation agrees with resolution. -/
theorem validate_agrees (h : cat.Reachable) (raw : Properties) :
    ∃ found : List (String × String),
      cat.validate raw.toValue = .ok (found.map fun e =>
        "Unrecognized value for " ++ e.1 ++ ": " ++ Text.quoted e.2) ∧
      (found.map Prod.fst).Sublist (StandardProperty.all.map StandardProperty.key) ∧
      ((∃ r, (cat.resolve false raw.toValue).result = .ok r) ↔ cat.Reads raw.entries) ∧
      (∀ r, (cat.resolve false raw.toValue).result = .ok r →
        r.warnings = r.unrecognized.map (fun e =>
          "Unrecognized value for " ++ e.1 ++ ": " ++ Text.quoted e.2) ∧
        found.Perm (r.unrecognized.filter fun e => (StandardProperty.ofKey? e.1).isSome)) ∧
      ((∀ e ∈ raw.entries, e.1 ∈ cat.registry.map Prod.fst →
          (StandardProperty.ofKey? e.1).isSome) →
        (cat.validate raw.toValue = .ok [] ↔
          ∃ r, (cat.resolve true raw.toValue).result = .ok r)) := by
  refine ⟨_, validate_eq h raw, StandardProperty.sublist_map_fst_listed _, exists_resolve_iff h,
    fun r hr => ?_, fun hs => ?_⟩
  · obtain rfl := eq_of_resolve_eq_ok h hr
    exact ⟨rfl, perm_rejectedText?⟩
  · have hperm : (StandardProperty.listed (cat.rejectedText? raw)).Perm
        (raw.entries.filter cat.rejects) := by
      rw [← filter_rejects_of_standard hs h.sound]
      exact perm_rejectedText?
    rw [exists_resolve_strict_iff h (h.reads_of_standard hs), validate_eq h, resolution, progress,
      Except.ok.injEq, List.map_eq_nil_iff, List.map_eq_nil_iff, ← List.length_eq_zero_iff,
      hperm.length_eq, List.length_eq_zero_iff]

def rejectedProperties : Properties where
  entries := [("wrap", "80"), ("max_line_length", "Off"), ("root", "true"), ("tab_width", "08"),
    ("end_of_line", "lf")]
  nodup := by decide

def standardProperties : Properties where
  entries := [("max_line_length", "off"), ("root", "true"), ("tab_width", "8")]
  nodup := by decide

/-- The reports leave out the property that is no standard one, and have another order. -/
theorem validate_agrees_twice :
    twice.Reachable ∧ twice.Reads rejectedProperties.entries ∧
      (∃ (found : List (String × String)) (r : Resolution),
        twice.validate rejectedProperties.toValue = .ok ["Unrecognized value for tab_width: '08'",
          "Unrecognized value for max_line_length: 'Off'"] ∧
        (twice.resolve false rejectedProperties.toValue).result = .ok r ∧
        r.warnings = ["Unrecognized value for wrap: '80'",
          "Unrecognized value for max_line_length: 'Off'",
          "Unrecognized value for tab_width: '08'"] ∧
        twice.validate rejectedProperties.toValue = .ok (found.map fun e =>
          "Unrecognized value for " ++ e.1 ++ ": " ++ Text.quoted e.2) ∧
        found.Perm (r.unrecognized.filter fun e => (StandardProperty.ofKey? e.1).isSome)) ∧
      twice.validate standardProperties.toValue = .ok [] ∧
      ∃ r, (twice.resolve true standardProperties.toValue).result = .ok r := by
  have hreads : twice.Reads rejectedProperties.entries := by decide +kernel
  have hreports : twice.validate rejectedProperties.toValue =
      .ok ["Unrecognized value for tab_width: '08'",
        "Unrecognized value for max_line_length: 'Off'"] :=
    (validate_eq reachable_twice _).trans (congrArg Except.ok (by decide +kernel))
  have hnone : twice.validate standardProperties.toValue = .ok [] :=
    (validate_eq reachable_twice _).trans (congrArg Except.ok (by decide +kernel))
  obtain ⟨found, hvalidate, -, hreturns, hresolved, -⟩ :=
    validate_agrees reachable_twice rejectedProperties
  obtain ⟨-, -, -, -, -, hstrict⟩ := validate_agrees reachable_twice standardProperties
  obtain ⟨r, hr⟩ := hreturns.2 hreads
  obtain ⟨hwarnings, hperm⟩ := hresolved r hr
  refine ⟨reachable_twice, hreads, ⟨found, r, hreports, hr, ?_, hvalidate, hperm⟩, hnone,
    (hstrict (by decide +kernel)).1 hnone⟩
  rw [hwarnings, eq_of_resolve_eq_ok reachable_twice hr]
  decide +kernel

def slottedRejection : Properties where
  entries := [("tab_width", "08"), ("mode", "on")]
  nodup := by decide

/-- Where members have an empty slot in place of texts, validation has a report and resolution has
no warnings to find it in. -/
theorem not_validate_agrees_slotted :
    slotted.Reachable ∧ (∀ c ∈ slotted.custom, c.Unhidden) ∧
      slotted.validate slottedRejection.toValue =
        .ok ["Unrecognized value for tab_width: '08'"] ∧
      ¬ ∃ r, (slotted.resolve false slottedRejection.toValue).result = .ok r ∧
        "Unrecognized value for tab_width: '08'" ∈ r.warnings := by
  have hslotted : slotted.Reachable := reachable_enumerated _
  refine ⟨hslotted, unhidden_slotted, ?_, ?_⟩
  · exact (validate_eq hslotted _).trans (congrArg Except.ok (by decide +kernel))
  · rintro ⟨r, hr, -⟩
    exact absurd (reads_of_resolve hslotted.sound hr) (by decide +kernel)

end Catalog

end EditorConfig

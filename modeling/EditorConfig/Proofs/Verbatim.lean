import EditorConfig.Proofs.Spelling
import EditorConfig.Proofs.Strictness

/-! Resolved settings against the texts that they come from. The entries of the settings are the
recognized texts of the standard properties as they were found, in catalog order. -/

namespace EditorConfig

/-- The text stands for a value of the property. -/
def PropertyClass.recognizes (c : PropertyClass) (s : String) : Bool :=
  match c.parse s with
  | .ok (some _) => true
  | _ => false

theorem PropertyClass.recognizes_of_parse {c : PropertyClass} {s : String} {v : Value}
    (h : c.parse s = .ok (some v)) : c.recognizes s := by
  rw [recognizes, h]

theorem PropertyClass.exists_parse_of_recognizes {c : PropertyClass} {s : String}
    (h : c.recognizes s) : ∃ v, c.parse s = .ok (some v) := by
  unfold recognizes at h
  split at h
  · exact ⟨_, by assumption⟩
  · cases h

namespace Catalog

/-- What standard properties recognize spells the settings of a resolution. -/
theorem spelledBy_recognizedSettings {cat : Catalog} (h : cat.Reachable) (raw : Properties) :
    (cat.recognizedSettings raw).SpelledBy cat fun p =>
      (raw.lookup? p.key).filter (cat.standard p).recognizes where
  unset p hp := by
    refine Option.eq_none_iff_forall_ne_some.2 fun v hv => ?_
    obtain ⟨s, hs, hread⟩ := Option.bind_eq_some_iff.1 hv
    have haccepted := PropertyClass.recognizes_of_parse (h.recognized?_eq_some_iff.1 hread)
    simp [hs, haccepted] at hp
  read p t hp := by
    obtain ⟨hs, ht⟩ := Option.filter_eq_some_iff.1 hp
    obtain ⟨v, hv⟩ := PropertyClass.exists_parse_of_recognizes ht
    exact ⟨v, Option.bind_eq_some_iff.2 ⟨t, hs, h.recognized?_eq_some_iff.2 hv⟩, hv⟩

/-- Resolved settings keep the texts that were recognized, and nothing else. -/
theorem entries_resolve {cat : Catalog} (h : cat.Reachable) (raw : Properties) :
    ((∃ r, (cat.resolve false raw.toValue).result = .ok r) ↔ cat.Reads raw.entries) ∧
      ∀ strict r, (cat.resolve strict raw.toValue).result = .ok r →
        r.settings.entries cat = .ok (StandardProperty.listed fun p =>
          (raw.lookup? p.key).filter (cat.standard p).recognizes) := by
  refine ⟨exists_resolve_iff h, fun strict r hr => ?_⟩
  obtain rfl := eq_of_resolve_eq_ok h hr
  exact (spelledBy_recognizedSettings h raw).entries_eq h.sound

def mixedProperties : Properties where
  entries := [("wrap", "off"), ("max_line_length", "off"), ("root", "true"), ("tab_width", "08"),
    ("charset", "utf-8"), ("indent_size", "18446744073709551615"), ("end_of_line", "LF"),
    ("insert_final_newline", "false")]
  nodup := by decide

/-- Catalog order, whatever the order of the entries, and neither other keys nor other texts. -/
theorem entries_resolve_twice :
    twice.Reachable ∧ twice.Reads mixedProperties.entries ∧ ∃ r,
      (twice.resolve false mixedProperties.toValue).result = .ok r ∧
      r.settings.entries twice = .ok [("indent_size", "18446744073709551615"),
        ("charset", "utf-8"), ("insert_final_newline", "false"), ("max_line_length", "off")] := by
  have hreads : twice.Reads mixedProperties.entries := by decide +kernel
  obtain ⟨hreturns, hentries⟩ := entries_resolve reachable_twice mixedProperties
  obtain ⟨r, hr⟩ := hreturns.2 hreads
  refine ⟨reachable_twice, hreads, r, hr, (hentries false r hr).trans ?_⟩
  exact congrArg Except.ok (by decide +kernel)

def slottedMixture : Properties where
  entries := [("tab_width", "4"), ("mode", "on")]
  nodup := by decide

/-- Where members have an empty slot in place of texts, there are no settings to keep a text. -/
theorem not_entries_resolve_slotted :
    slotted.Reachable ∧ (∀ c ∈ slotted.custom, c.Unhidden) ∧
      (slotted.standard .tabWidth).recognizes "4" ∧
      ¬ ∃ r, (slotted.resolve false slottedMixture.toValue).result = .ok r ∧
        r.settings.entries slotted = .ok [("tab_width", "4")] := by
  have hslotted : slotted.Reachable := reachable_enumerated _
  refine ⟨hslotted, unhidden_slotted, rfl, fun ⟨r, hr, _⟩ => ?_⟩
  exact absurd (reads_of_resolve hslotted.sound hr) (by decide +kernel)

end Catalog

end EditorConfig

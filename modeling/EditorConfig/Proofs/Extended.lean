import EditorConfig.Proofs.Standards
import EditorConfig.Proofs.Validated

/-! Resolutions before and after changes of the catalog. Keys that are registered in between are no
longer unknown; but the settings, and what is not recognized under standard keys, come from the
standard classes, so they stay. -/

namespace EditorConfig.Catalog

variable {a b : Catalog} {raw : Properties}

/-- What stands under a standard key is read alike. -/
theorem recognized?_key_congr (ha : a.Reachable) (hb : b.Reachable) (p : StandardProperty)
    (s : String) : a.recognized? p.key s = b.recognized? p.key s := by
  rw [recognized?, recognized?, ha.property?_key p, hb.property?_key p, ha.standard_eq hb]

theorem rejects_key_congr (ha : a.Reachable) (hb : b.Reachable) (p : StandardProperty)
    (s : String) : a.rejects (p.key, s) = b.rejects (p.key, s) := by
  rw [rejects, rejects, ha.property?_key p, hb.property?_key p, ha.standard_eq hb]

theorem recognizedSettings_congr (ha : a.Reachable) (hb : b.Reachable) (raw : Properties) :
    a.recognizedSettings raw = b.recognizedSettings raw := by
  have hread : ∀ p : StandardProperty, a.recognized? p.key = b.recognized? p.key :=
    fun p => funext (recognized?_key_congr ha hb p)
  rw [recognizedSettings, recognizedSettings]
  simp only [hread]

/-- The entries with standard keys that are rejected are the same, in the same order. -/
theorem filter_rejects_congr (ha : a.Reachable) (hb : b.Reachable)
    (entries : List (String × String)) :
    (entries.filter a.rejects).filter (fun e => (StandardProperty.ofKey? e.1).isSome) =
      (entries.filter b.rejects).filter fun e => (StandardProperty.ofKey? e.1).isSome := by
  rw [List.filter_filter, List.filter_filter]
  refine List.filter_congr fun e _ => ?_
  cases hkey : (StandardProperty.ofKey? e.1).isSome with
  | false => simp
  | true =>
    obtain ⟨p, hp⟩ := StandardProperty.isSome_ofKey?_iff.1 hkey
    obtain ⟨key, s⟩ := e
    obtain rfl : p.key = key := hp
    rw [rejects_key_congr ha hb]

/-- An entry of a registered key is either parsed or not recognized, if it can be read. -/
theorem Reads.parsed_or_rejected (hl : b.Reads raw.entries) (h : b.Sound) {key : String}
    (hknown : key ∈ b.registry.map Prod.fst) (hkey : key ∈ raw.entries.map Prod.fst) :
    ∃ s, (key, s) ∈ raw.entries ∧
      ((key, s) ∈ raw.entries.filter b.rejects ∨
        ∃ c v, b.property? key = some c ∧ c.parse s = .ok (some v)) := by
  obtain ⟨⟨k, s⟩, hmem, rfl⟩ := List.mem_map.1 hkey
  obtain ⟨c, hc⟩ := Option.isSome_iff_exists.1 ((isSome_property?_iff h).2 hknown)
  obtain ⟨found, hs⟩ := h.exists_parse hc (hl _ hmem c hc) s
  refine ⟨s, hmem, ?_⟩
  cases found with
  | none => exact .inl (List.mem_filter.2 ⟨hmem, rejects_iff.2 ⟨c, hc, hs⟩⟩)
  | some v => exact .inr ⟨c, v, hc, hs⟩

/-- The parts of a resolution, read off the entries. -/
theorem parts_of_resolve (h : a.Reachable) {strict : Bool} {r : Resolution}
    (hr : (a.resolve strict raw.toValue).result = .ok r) :
    r.settings = a.recognizedSettings raw ∧ r.unrecognized = raw.entries.filter a.rejects ∧
      r.unknownKeys =
        (raw.entries.map Prod.fst).filter fun key => key ∉ a.registry.map Prod.fst := by
  obtain rfl := eq_of_resolve_eq_ok h hr
  exact ⟨rfl, rfl, rfl⟩

/-- Registering properties extends resolution conservatively. -/
theorem resolve_extends {cat later : Catalog} (h : cat.Reachable) (hl : cat.Reaches later)
    (raw : Properties) :
    ((∃ r, (cat.resolve false raw.toValue).result = .ok r) ↔ cat.Reads raw.entries) ∧
      ((∃ s, (later.resolve false raw.toValue).result = .ok s) ↔ later.Reads raw.entries) ∧
      ∃ added, later.registry = cat.registry ++ added ∧
        ∀ r s, (cat.resolve false raw.toValue).result = .ok r →
          (later.resolve false raw.toValue).result = .ok s →
          (∀ p, s.settings.value p = r.settings.value p) ∧
          s.unrecognized.filter (fun e => (StandardProperty.ofKey? e.1).isSome) =
            r.unrecognized.filter (fun e => (StandardProperty.ofKey? e.1).isSome) ∧
          s.unknownKeys = r.unknownKeys.filter (· ∉ added.map Prod.fst) ∧
          ∀ key ∈ r.unknownKeys, key ∉ s.unknownKeys → ∃ t, (key, t) ∈ raw.entries ∧
            ((key, t) ∈ s.unrecognized ∨
              ∃ c v, later.property? key = some c ∧ c.parse t = .ok (some v)) := by
  have hlater : later.Reachable := h.trans hl
  obtain ⟨added, hadded⟩ := hl.registry_grows
  refine ⟨exists_resolve_iff h, exists_resolve_iff hlater, added, hadded.symm, fun r s hr hs => ?_⟩
  obtain ⟨hsettings, hrejected, hunknown⟩ := parts_of_resolve h hr
  obtain ⟨hsettingsLater, hrejectedLater, hunknownLater⟩ := parts_of_resolve hlater hs
  refine ⟨fun p => ?_, ?_, ?_, fun key hkey hnot => ?_⟩
  · rw [hsettings, hsettingsLater, recognizedSettings_congr hlater h]
  · rw [hrejected, hrejectedLater, filter_rejects_congr hlater h]
  · rw [hunknown, hunknownLater, ← hadded, List.filter_filter]
    refine List.filter_congr fun key _ => ?_
    rw [Bool.eq_iff_iff]
    simp only [List.map_append, List.mem_append, Bool.and_eq_true, decide_eq_true_eq, not_or]
    exact and_comm
  · rw [hrejectedLater]
    rw [hunknown] at hkey
    have hmem := (List.mem_filter.1 hkey).1
    have hknown : key ∈ later.registry.map Prod.fst := by
      by_contra hfree
      rw [hunknownLater] at hnot
      exact hnot (List.mem_filter.2 ⟨hmem, by simpa using hfree⟩)
    exact (reads_of_resolve hlater.sound hs).parsed_or_rejected hlater.sound hknown hmem

/-- The key that is registered in between leaves the unknown keys and is not recognized, and nothing
else changes. -/
theorem resolve_extends_twice :
    once.Reachable ∧ once.Reaches twice ∧ once.Reads rejectedProperties.entries ∧
      twice.Reads rejectedProperties.entries ∧ ∃ r s,
        (once.resolve false rejectedProperties.toValue).result = .ok r ∧
        (twice.resolve false rejectedProperties.toValue).result = .ok s ∧
        (∀ p, s.settings.value p = r.settings.value p) ∧
        s.unrecognized.filter (fun e => (StandardProperty.ofKey? e.1).isSome) =
          r.unrecognized.filter (fun e => (StandardProperty.ofKey? e.1).isSome) ∧
        r.unknownKeys = ["wrap", "root"] ∧ s.unknownKeys = ["root"] ∧
        ∃ t, ("wrap", t) ∈ s.unrecognized := by
  have hreaches : once.Reaches twice := by
    have step : once.Reaches (once.apply (.declare (.custom 0) .enumeration "wrap")).1 :=
      .step .refl ⟨0, rfl⟩
    exact step
  have hreads : once.Reads rejectedProperties.entries := by decide +kernel
  have hreadsTwice : twice.Reads rejectedProperties.entries := by decide +kernel
  obtain ⟨hreturns, hreturnsTwice, added, hadded, hextends⟩ :=
    resolve_extends reachable_once hreaches rejectedProperties
  obtain ⟨r, hr⟩ := hreturns.2 hreads
  obtain ⟨s, hs⟩ := hreturnsTwice.2 hreadsTwice
  obtain ⟨hfields, hstandard, -, hremoved⟩ := hextends r s hr hs
  have hunknown : r.unknownKeys = ["wrap", "root"] :=
    (parts_of_resolve reachable_once hr).2.2.trans (by decide +kernel)
  have hunknownTwice : s.unknownKeys = ["root"] :=
    (parts_of_resolve reachable_twice hs).2.2.trans (by decide +kernel)
  refine ⟨reachable_once, hreaches, hreads, hreadsTwice, r, s, hr, hs, hfields, hstandard, hunknown,
    hunknownTwice, ?_⟩
  obtain ⟨t, ht, hrejected | ⟨c, v, hc, hv⟩⟩ :=
    hremoved "wrap" (by simp [hunknown]) (by simp [hunknownTwice])
  · exact ⟨t, hrejected⟩
  · obtain rfl : t = "80" := by simpa [rejectedProperties] using ht
    cases hc
    cases hv

/-- Once a class whose members have an empty slot in place of texts is registered, a mapping with
its key does not resolve any more. -/
theorem not_resolve_extends_slotted :
    initial.Reaches slotted ∧
      (∃ r, (initial.resolve false slottedProperties.toValue).result = .ok r) ∧
      ¬ ∃ s, (slotted.resolve false slottedProperties.toValue).result = .ok s := by
  have hslotted : slotted.Reachable := reachable_enumerated _
  refine ⟨hslotted, ⟨_, rfl⟩, fun ⟨s, hs⟩ => ?_⟩
  exact absurd (reads_of_resolve hslotted.sound hs) (by decide +kernel)

end EditorConfig.Catalog

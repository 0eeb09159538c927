import EditorConfig.Proofs.Extended
import EditorConfig.Proofs.Restored
import EditorConfig.Proofs.Verbatim

/-! Entries in another order, and among other ones. The settings, whatever is seen of them, and the
reports of validation depend on the texts under standard keys only. Warnings, unrecognized entries,
unknown keys and log follow the entries: they are rearranged when the entries are, but the summary
only counts them and stays. -/

namespace EditorConfig

/-- The same standard keys are present, with the same texts. -/
def Properties.SameTexts (raw other : Properties) : Prop :=
  ∀ p : StandardProperty, raw.lookup? p.key = other.lookup? p.key

namespace Catalog

variable {cat : Catalog} {raw other : Properties}

theorem recognizedSettings_eq_of_sameTexts (h : raw.SameTexts other) :
    cat.recognizedSettings raw = cat.recognizedSettings other := by
  have htext : ∀ p : StandardProperty, raw.lookup? p.key = other.lookup? p.key := h
  simp only [recognizedSettings, htext]

theorem validate_eq_of_sameTexts (hcat : cat.Reachable) (h : raw.SameTexts other) :
    cat.validate raw.toValue = cat.validate other.toValue := by
  have htext : cat.rejectedText? raw = cat.rejectedText? other := by
    funext p
    simp only [rejectedText?, h p]
  simp only [validate_eq hcat, htext]

theorem reads_iff_of_perm (h : other.entries.Perm raw.entries) :
    cat.Reads other.entries ↔ cat.Reads raw.entries := by
  simp only [Reads, h.mem_iff]

/-- What is collected is rearranged as the entries are. -/
theorem perm_progress (cat : Catalog) {others entries : List (String × String)}
    (h : others.Perm entries) :
    (cat.progress others).values.Perm (cat.progress entries).values ∧
      (cat.progress others).unrecognized.Perm (cat.progress entries).unrecognized ∧
      (cat.progress others).unknownKeys.Perm (cat.progress entries).unknownKeys ∧
      (cat.progress others).warnings.Perm (cat.progress entries).warnings ∧
      (cat.progress others).logs.Perm (cat.progress entries).logs :=
  ⟨h.filterMap _, h.filter _, (h.map _).filter _, (h.filter _).map _, h.filterMap _⟩

/-- Counting does not depend on the order. -/
theorem summary_eq_of_perm (cat : Catalog) {others entries : List (String × String)}
    (h : others.Perm entries) : (cat.progress others).summary = (cat.progress entries).summary := by
  obtain ⟨hvalues, hunrecognized, hunknown, -, -⟩ := cat.perm_progress h
  simp only [Progress.summary, hvalues.length_eq, hunrecognized.length_eq, hunknown.length_eq]

/-- Strict mode resolves no less in another order. -/
theorem exists_resolve_strict_of_perm (h : cat.Reachable) (hp : other.entries.Perm raw.entries)
    (hr : ∃ r, (cat.resolve true raw.toValue).result = .ok r) :
    ∃ s, (cat.resolve true other.toValue).result = .ok s := by
  have hl : cat.Reads raw.entries := hr.elim fun _ hr => reads_of_resolve h.sound hr
  obtain ⟨-, -, -, hwarnings, -⟩ := cat.perm_progress hp
  rw [exists_resolve_strict_iff h hl] at hr
  rw [exists_resolve_strict_iff h ((reads_iff_of_perm hp).2 hl)]
  have hnil : (cat.progress raw.entries).warnings = [] := hr
  exact (hnil ▸ hwarnings).eq_nil

/-- The records of a lenient resolution: those of the entries, and then the summary. -/
theorem logs_resolve (h : cat.Reachable) (hl : cat.Reads raw.entries) :
    (cat.resolve false raw.toValue).logs =
      (cat.progress raw.entries).logs ++ [(cat.progress raw.entries).summary] := by
  rw [resolve_eq h hl, if_neg (by simp)]
  rfl

/-- Neither the order of the entries nor the entries of other keys matter to settings and to
validation; everything else is rearranged as the entries are. -/
theorem resolve_rearranged (h : cat.Reachable) (hkeys : raw.SameTexts other) :
    (∃ reports, cat.validate raw.toValue = .ok reports ∧
      cat.validate other.toValue = .ok reports) ∧
    (∀ q ∈ [raw, other],
      (∃ r, (cat.resolve false q.toValue).result = .ok r) ↔ cat.Reads q.entries) ∧
    (∀ r s, (cat.resolve false raw.toValue).result = .ok r →
      (cat.resolve false other.toValue).result = .ok s →
        (∀ p, s.settings.value p = r.settings.value p) ∧
        ∀ dump, ∃ view, r.settings.view dump cat = .ok view ∧
          s.settings.view dump cat = .ok view) ∧
    (other.entries.Perm raw.entries →
      ((∃ r, (cat.resolve false raw.toValue).result = .ok r) ↔
        ∃ s, (cat.resolve false other.toValue).result = .ok s) ∧
      ((∃ r, (cat.resolve true raw.toValue).result = .ok r) ↔
        ∃ s, (cat.resolve true other.toValue).result = .ok s) ∧
      ∀ r s, (cat.resolve false raw.toValue).result = .ok r →
        (cat.resolve false other.toValue).result = .ok s →
          s.warnings.Perm r.warnings ∧ s.unrecognized.Perm r.unrecognized ∧
          s.unknownKeys.Perm r.unknownKeys ∧
          ∃ records others last, last.level = .info ∧
            (cat.resolve false raw.toValue).logs = records ++ [last] ∧
            (cat.resolve false other.toValue).logs = others ++ [last] ∧
            others.Perm records) := by
  refine ⟨?_, fun q _ => exists_resolve_iff h, fun r s hr hs => ?_,
    fun hp => ⟨?_, ?_, fun r s hr hs => ?_⟩⟩
  · have hreports := validate_eq h raw
    exact ⟨_, hreports, (validate_eq_of_sameTexts h hkeys).symm.trans hreports⟩
  · have hsettings : s.settings = r.settings := by
      have heq : cat.recognizedSettings raw = cat.recognizedSettings other :=
        recognizedSettings_eq_of_sameTexts hkeys
      rw [eq_of_resolve_eq_ok h hr, eq_of_resolve_eq_ok h hs]
      exact heq.symm
    have hproduced : r.settings.Produced := .resolved h hr
    simp only [hsettings, implies_true, true_and]
    intro dump
    obtain ⟨view, hview⟩ := hproduced.exists_view h dump
    exact ⟨view, hview, hview⟩
  · rw [exists_resolve_iff h, exists_resolve_iff h, reads_iff_of_perm hp]
  · exact ⟨exists_resolve_strict_of_perm h hp, exists_resolve_strict_of_perm h hp.symm⟩
  · have hlogs := logs_resolve h (reads_of_resolve h.sound hr)
    have hothers := logs_resolve h (reads_of_resolve h.sound hs)
    rw [cat.summary_eq_of_perm hp] at hothers
    obtain ⟨-, hunrecognized, hunknown, hwarnings, hrecords⟩ := cat.perm_progress hp
    obtain rfl := eq_of_resolve_eq_ok h hr
    obtain rfl := eq_of_resolve_eq_ok h hs
    exact ⟨hwarnings, hunrecognized, hunknown, _, _, _, rfl, hlogs, hothers, hrecords⟩

/-- The rejected properties in the opposite order. -/
def reversedProperties : Properties where
  entries := rejectedProperties.entries.reverse
  nodup := by decide

/-- Warnings and log come in the opposite order, validation reports in the same one. -/
theorem resolve_rearranged_twice :
    twice.Reachable ∧ rejectedProperties.SameTexts reversedProperties ∧
      reversedProperties.entries.Perm rejectedProperties.entries ∧
      twice.Reads rejectedProperties.entries ∧ twice.Reads reversedProperties.entries ∧
      ∃ r s, (twice.resolve false rejectedProperties.toValue).result = .ok r ∧
        (twice.resolve false reversedProperties.toValue).result = .ok s ∧
        (∀ p, s.settings.value p = r.settings.value p) ∧
        (∃ view, r.settings.view Yaml.dump twice = .ok view ∧
          s.settings.view Yaml.dump twice = .ok view) ∧
        r.warnings = ["Unrecognized value for wrap: '80'",
          "Unrecognized value for max_line_length: 'Off'",
          "Unrecognized value for tab_width: '08'"] ∧
        s.warnings.Perm r.warnings ∧
        (∃ records others last,
          (twice.resolve false rejectedProperties.toValue).logs = records ++ [last] ∧
          (twice.resolve false reversedProperties.toValue).logs = others ++ [last] ∧
          others.Perm records) ∧
        ¬ ∃ q, (twice.resolve true reversedProperties.toValue).result = .ok q := by
  have hsame : rejectedProperties.SameTexts reversedProperties := by
    intro p
    cases p <;> rfl
  have hperm : reversedProperties.entries.Perm rejectedProperties.entries := List.reverse_perm _
  have hreads : twice.Reads rejectedProperties.entries := by decide +kernel
  have hreversed : twice.Reads reversedProperties.entries := by decide +kernel
  obtain ⟨-, hreturns, hfields, hrearranged⟩ := resolve_rearranged reachable_twice hsame
  obtain ⟨-, hstrict, hlists⟩ := hrearranged hperm
  obtain ⟨r, hr⟩ := (hreturns rejectedProperties (by simp)).2 hreads
  obtain ⟨s, hs⟩ := (hreturns reversedProperties (by simp)).2 hreversed
  obtain ⟨hvalues, hview⟩ := hfields r s hr hs
  obtain ⟨hwarnings, -, -, records, others, last, -, hrecords, hothers, hlogs⟩ := hlists r s hr hs
  have hrejected : r.warnings = ["Unrecognized value for wrap: '80'",
      "Unrecognized value for max_line_length: 'Off'",
      "Unrecognized value for tab_width: '08'"] := by
    rw [eq_of_resolve_eq_ok reachable_twice hr]
    decide +kernel
  refine ⟨reachable_twice, hsame, hperm, hreads, hreversed, r, s, hr, hs, hvalues, hview _,
    hrejected, hwarnings, ⟨records, others, last, hrecords, hothers, hlogs⟩, ?_⟩
  rw [← hstrict, exists_resolve_strict_iff reachable_twice hreads,
    ← eq_of_resolve_eq_ok reachable_twice hr, hrejected]
  simp

def slottedWidth : Properties where
  entries := [("tab_width", "4")]
  nodup := by decide

/-- Where members have an empty slot in place of texts, an entry of another key keeps a mapping from
being resolved. -/
theorem not_resolve_rearranged_slotted :
    slotted.Reachable ∧ (∀ c ∈ slotted.custom, c.Unhidden) ∧
      slottedWidth.SameTexts slottedMixture ∧
      (∃ r, (slotted.resolve false slottedWidth.toValue).result = .ok r) ∧
      ¬ ∃ s, (slotted.resolve false slottedMixture.toValue).result = .ok s := by
  have hsame : slottedWidth.SameTexts slottedMixture := by
    intro p
    cases p <;> rfl
  have hslotted : slotted.Reachable := reachable_enumerated _
  refine ⟨hslotted, unhidden_slotted, hsame, ⟨_, rfl⟩, fun ⟨s, hs⟩ => ?_⟩
  exact absurd (reads_of_resolve hslotted.sound hs) (by decide +kernel)

end Catalog

end EditorConfig

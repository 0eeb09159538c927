import EditorConfig.Proofs.Validated

/-! Settings built from texts, against validation and resolution. Each field of the settings has a
check of its own, which accepts a text exactly if the standard property of the field recognizes it.
So what keeps settings from being built is what validation reports, and settings that are built are
those of a resolution. -/

namespace EditorConfig

theorem Properties.mapM_fieldName (raw : Properties) :
    raw.mapping.mapM (fun e => Settings.fieldName e.1) = .ok (raw.entries.map Prod.fst) :=
  Settings.mapM_fieldName .text raw.entries

/-- Where all reasons can be written, nothing comes before the issues. -/
theorem Failure.ofIssues_of_written {issues : List Issue}
    (h : ∀ i ∈ issues, i.refusal.unwritten? = none) : ofIssues issues = .invalidFields issues := by
  have hnone : issues.findSome? (fun i => i.refusal.unwritten?) = none :=
    List.findSome?_eq_none_iff.2 h
  rw [ofIssues, hnone, Option.getD_none]

namespace Catalog

variable {cat : Catalog} {raw : Properties}

/-- A field accepts the texts that its property recognizes. -/
theorem accept_text (h : cat.Reachable) (p : StandardProperty) (s : String) :
    (cat.standard p).accept (.text s) =
      if cat.rejects (p.key, s) then .error (.unrecognized s)
      else .ok (cat.recognized? p.key s) := by
  have hp := h.property?_key p
  obtain ⟨found, hf⟩ := h.sound.exists_parse hp (h.sound.legible_standard p) s
  cases found <;>
    simp [PropertyClass.accept, PropertyClass.acceptText, rejects, recognized?, hp, hf, Except.map,
      Except.toOption]

/-- The text of a field is rejected, or the field holds what the text stands for. -/
theorem accept_entry (h : cat.Reachable) (raw : Properties) (p : StandardProperty) :
    (cat.standard p).accept ((Value.entry? p.key raw.mapping).getD .null) =
      match cat.rejectedText? raw p with
      | some s => .error (.unrecognized s)
      | none => .ok ((cat.recognizedSettings raw).value p) := by
  have hvalue : (cat.recognizedSettings raw).value p =
      (raw.lookup? p.key).bind (cat.recognized? p.key) := rfl
  rw [Properties.entry?_mapping, rejectedText?, hvalue]
  cases hs : raw.lookup? p.key with
  | none => rfl
  | some s =>
    rw [Option.map_some, Option.getD_some, accept_text h, Option.bind_some, Option.filter_some]
    cases cat.rejects (p.key, s) <;> rfl

/-- The issues of settings that are built from texts, in catalog order. -/
def textIssues (cat : Catalog) (raw : Properties) : List Issue :=
  StandardProperty.all.filterMap fun p =>
    (cat.rejectedText? raw p).map fun s => ⟨p, .unrecognized s⟩

theorem textIssues_eq_nil_iff : cat.textIssues raw = [] ↔ ∀ p, cat.rejectedText? raw p = none := by
  simp [textIssues, List.filterMap_eq_nil_iff]

/-- Each issue names the key of a rejected text, and its message has the report on it. -/
theorem map_textIssues (cat : Catalog) (raw : Properties) :
    (cat.textIssues raw).map (fun i => (i.field.key, i.message)) =
      (StandardProperty.listed (cat.rejectedText? raw)).map fun e =>
        (e.1, "Value error, " ++
          ("Unrecognized value for " ++ e.1 ++ ": " ++ Text.quoted e.2)) := by
  rw [textIssues, StandardProperty.listed, List.map_filterMap, List.map_filterMap]
  refine List.filterMap_congr fun p _ => ?_
  cases cat.rejectedText? raw p with
  | none => rfl
  | some s =>
    simp only [Option.map_some, Issue.message, Refusal.message, unrecognizedText_text]

/-- Settings are built from texts unless one of them is rejected. -/
theorem ofMapping_eq (h : cat.Reachable) (raw : Properties) :
    Settings.ofMapping cat raw.mapping =
      if cat.textIssues raw = [] then .ok (cat.recognizedSettings raw)
      else .error (.invalidFields (cat.textIssues raw)) := by
  have hissues : Settings.issues cat (fun p => (Value.entry? p.key raw.mapping).getD .null) =
      cat.textIssues raw := by
    rw [Settings.issues, Settings.fieldOrder_eq_all]
    refine List.filterMap_congr fun p _ => ?_
    rw [accept_entry h]
    cases cat.rejectedText? raw p <;> rfl
  have hshown : Failure.ofIssues (cat.textIssues raw) = .invalidFields (cat.textIssues raw) := by
    refine Failure.ofIssues_of_written fun i hi => ?_
    obtain ⟨p, -, hp⟩ := List.mem_filterMap.1 hi
    obtain ⟨s, -, rfl⟩ := Option.map_eq_some_iff.1 hp
    rfl
  rw [Settings.ofMapping, raw.mapM_fieldName]
  by_cases hnil : cat.textIssues raw = []
  · have hnone := textIssues_eq_nil_iff.1 hnil
    have haccept : ∀ p, (cat.standard p).accept ((Value.entry? p.key raw.mapping).getD .null) =
        .ok ((cat.recognizedSettings raw).value p) := by
      intro p
      rw [accept_entry h, hnone p]
    rw [if_pos hnil, Settings.ofFields_eq_ok haccept]
    rfl
  · rw [if_neg hnil, ← hshown, ← hissues, Settings.ofFields]
    rw [← hissues] at hnil
    split
    · contradiction
    · rfl

/-- Building settings from texts agrees with validating and resolving them. -/
theorem ofMapping_agrees (h : cat.Reachable) (raw : Properties) :
    ∃ found : List (String × String), (∀ e ∈ found, e ∈ raw.entries) ∧
      cat.validate raw.toValue = .ok (found.map fun e =>
        "Unrecognized value for " ++ e.1 ++ ": " ++ Text.quoted e.2) ∧
      ((∃ s, Settings.ofMapping cat raw.mapping = .ok s) ↔ cat.validate raw.toValue = .ok []) ∧
      ((∃ r, (cat.resolve false raw.toValue).result = .ok r) ↔ cat.Reads raw.entries) ∧
      (∀ s r, Settings.ofMapping cat raw.mapping = .ok s →
        (cat.resolve false raw.toValue).result = .ok r → ∀ p, s.value p = r.settings.value p) ∧
      (cat.validate raw.toValue ≠ .ok [] →
        ∃ issues, Settings.ofMapping cat raw.mapping = .error (.invalidFields issues) ∧
          issues.map (fun i => (i.field.key, i.message)) = found.map fun e =>
            (e.1, "Value error, " ++
              ("Unrecognized value for " ++ e.1 ++ ": " ++ Text.quoted e.2))) := by
  have hbuilt := ofMapping_eq h raw
  have hvalid : cat.validate raw.toValue = .ok [] ↔ cat.textIssues raw = [] := by
    rw [validate_eq h, Except.ok.injEq, List.map_eq_nil_iff, StandardProperty.listed_eq_nil_iff,
      textIssues_eq_nil_iff]
  refine ⟨StandardProperty.listed (cat.rejectedText? raw), fun e he => ?_, validate_eq h raw, ?_,
    exists_resolve_iff h, fun s r hs hr p => ?_,
    fun hne => ⟨cat.textIssues raw, ?_, map_textIssues cat raw⟩⟩
  · obtain ⟨p, hp, ht⟩ := StandardProperty.mem_listed.1 he
    have hmem := (rejectedText?_eq_some_iff p e.2).1 ht
    rw [hp] at hmem
    exact (List.mem_filter.1 hmem).1
  · rw [hvalid, hbuilt]
    by_cases hnil : cat.textIssues raw = [] <;> simp [hnil]
  · rw [hbuilt] at hs
    split at hs
    · obtain rfl := Except.ok.inj hs
      rw [eq_of_resolve_eq_ok h hr]
      rfl
    · cases hs
  · rw [hbuilt, if_neg (mt hvalid.2 hne)]

/-- Two texts keep settings from being built, each of them with the report on it, and a text under
an unknown key or a custom one does not. -/
theorem ofMapping_agrees_twice :
    twice.Reachable ∧ twice.Reads standardProperties.entries ∧
      (∃ (found : List (String × String)) (issues : List Issue),
        twice.validate rejectedProperties.toValue = .ok (found.map fun e =>
          "Unrecognized value for " ++ e.1 ++ ": " ++ Text.quoted e.2) ∧
        Settings.ofMapping twice rejectedProperties.mapping = .error (.invalidFields issues) ∧
        (issues.map fun i => (i.field.key, i.message)) = (found.map fun e =>
          (e.1, "Value error, " ++
            ("Unrecognized value for " ++ e.1 ++ ": " ++ Text.quoted e.2))) ∧
        found.map Prod.fst = ["tab_width", "max_line_length"]) ∧
      ∃ s r, Settings.ofMapping twice standardProperties.mapping = .ok s ∧
        (twice.resolve false standardProperties.toValue).result = .ok r ∧
        (∀ p, s.value p = r.settings.value p) ∧ s.value .maxLineLength = some .explicitNone := by
  have hreads : twice.Reads standardProperties.entries := by decide +kernel
  have hfailed : Settings.ofMapping twice rejectedProperties.mapping = .error (.invalidFields
      [⟨.tabWidth, .unrecognized "08"⟩, ⟨.maxLineLength, .unrecognized "Off"⟩]) := rfl
  obtain ⟨s, hs, hlength⟩ : ∃ s, Settings.ofMapping twice standardProperties.mapping = .ok s ∧
      s.value .maxLineLength = some .explicitNone := ⟨_, rfl, rfl⟩
  obtain ⟨found, -, hreports, hbuilds, -, -, hrejected⟩ :=
    ofMapping_agrees reachable_twice rejectedProperties
  obtain ⟨-, -, -, -, hreturns, hfields, -⟩ := ofMapping_agrees reachable_twice standardProperties
  have hinvalid : twice.validate rejectedProperties.toValue ≠ .ok [] := by
    rw [ne_eq, ← hbuilds, hfailed]
    simp
  obtain ⟨issues, hissues, hmessages⟩ := hrejected hinvalid
  obtain ⟨r, hr⟩ := hreturns.2 hreads
  refine ⟨reachable_twice, hreads, ⟨found, issues, hreports, hissues, hmessages, ?_⟩, s, r, hs, hr,
    hfields s r hs hr, hlength⟩
  have hkeys := congrArg (List.map Prod.fst) hmessages
  rw [hfailed] at hissues
  cases hissues
  simpa [Function.comp_def, StandardProperty.key] using hkeys.symm

/-- Where members have an empty slot in place of texts, settings are built from texts that do not
resolve. -/
theorem not_ofMapping_agrees_slotted :
    slotted.Reachable ∧ (∃ s, Settings.ofMapping slotted slottedProperties.mapping = .ok s) ∧
      slotted.validate slottedProperties.toValue = .ok [] ∧
      ¬ ∃ r, (slotted.resolve false slottedProperties.toValue).result = .ok r := by
  have hslotted : slotted.Reachable := reachable_enumerated _
  refine ⟨hslotted, ⟨_, rfl⟩, ?_, ?_⟩
  · exact (validate_eq hslotted _).trans (congrArg Except.ok (by decide +kernel))
  · rintro ⟨r, hr⟩
    exact absurd (reads_of_resolve hslotted.sound hr) (by decide +kernel)

end Catalog

end EditorConfig

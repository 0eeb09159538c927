import EditorConfig.Proofs.Resolved

/-! The two modes of a resolution. Both take the entries in the same way, so they differ only in
what they make of the warnings: strict mode fails with all of them, in their order, before anything
else is logged. -/

namespace EditorConfig.Catalog

/-- Properties are only refused for warnings, or because one of them cannot read. -/
theorem Reachable.resolve_eq_error {cat : Catalog} (h : cat.Reachable) {strict : Bool}
    {raw : Properties} {f : Failure} (hf : (cat.resolve strict raw.toValue).result = .error f) :
    f = .strictWarnings (cat.resolution raw).warnings ∧ cat.Reads raw.entries ∨
      f = .unfilled textTrait ∧ ¬ cat.Reads raw.entries := by
  by_cases hl : cat.Reads raw.entries
  · rw [resolve_eq h hl] at hf
    split at hf <;> cases hf
    exact .inl ⟨rfl, hl⟩
  · obtain ⟨taken, -, hfailed⟩ := resolve_eq_unfilled h.sound hl
    rw [hfailed strict] at hf
    cases hf
    exact .inr ⟨rfl, hl⟩

/-- A resolution that succeeds comes to what can be read off the entries. -/
theorem eq_of_resolve_eq_ok {cat : Catalog} (h : cat.Reachable) {strict : Bool} {raw : Properties}
    {r : Resolution} (hr : (cat.resolve strict raw.toValue).result = .ok r) :
    r = cat.resolution raw := by
  rw [resolve_eq h (reads_of_resolve h.sound hr)] at hr
  split at hr <;> cases hr
  rfl

theorem resolve_lenient_eq_ok {cat : Catalog} (h : cat.Reachable) {raw : Properties}
    (hl : cat.Reads raw.entries) :
    (cat.resolve false raw.toValue).result = .ok (cat.resolution raw) := by
  rw [resolve_eq h hl, if_neg (by simp)]

/-- Lenient mode resolves exactly what can be read. -/
theorem exists_resolve_iff {cat : Catalog} (h : cat.Reachable) {raw : Properties} :
    (∃ r, (cat.resolve false raw.toValue).result = .ok r) ↔ cat.Reads raw.entries :=
  ⟨fun ⟨_, hr⟩ => reads_of_resolve h.sound hr, fun hl => ⟨_, resolve_lenient_eq_ok h hl⟩⟩

/-- Strict mode succeeds exactly on properties without warnings. -/
theorem exists_resolve_strict_iff {cat : Catalog} (h : cat.Reachable) {raw : Properties}
    (hl : cat.Reads raw.entries) :
    (∃ r, (cat.resolve true raw.toValue).result = .ok r) ↔ (cat.resolution raw).warnings = [] := by
  have hrun := resolve_eq h hl true
  by_cases hw : (cat.resolution raw).warnings = []
  · rw [if_neg (by simp [hw])] at hrun
    simp [hrun, hw]
  · rw [if_pos ⟨rfl, hw⟩] at hrun
    simp [hrun, hw]

/-- Strict mode is lenient mode plus rejection. -/
theorem resolve_strict {cat : Catalog} (h : cat.Reachable) (raw : Properties) :
    ((∃ r, (cat.resolve false raw.toValue).result = .ok r) ↔ cat.Reads raw.entries) ∧
      (∀ f, (cat.resolve false raw.toValue).result = .error f →
        cat.resolve true raw.toValue = cat.resolve false raw.toValue) ∧
      ∀ r, (cat.resolve false raw.toValue).result = .ok r →
        ((∃ s, (cat.resolve true raw.toValue).result = .ok s) ↔ r.warnings = []) ∧
        (r.warnings = [] → cat.resolve true raw.toValue = cat.resolve false raw.toValue) ∧
        (r.warnings ≠ [] →
          (cat.resolve false raw.toValue).logs.getLast?.map LogRecord.level = some .info ∧
          cat.resolve true raw.toValue = ⟨(cat.resolve false raw.toValue).logs.dropLast,
            .error (.strictWarnings r.warnings)⟩ ∧
          (Failure.strictWarnings r.warnings).message = some
            ("Property warnings in strict mode: " ++ "; ".intercalate r.warnings)) := by
  refine ⟨exists_resolve_iff h, fun f hf => ?_, fun r hr => ?_⟩
  · have hl : ¬ cat.Reads raw.entries := by
      intro hl
      rw [resolve_lenient_eq_ok h hl] at hf
      cases hf
    obtain ⟨taken, -, hfailed⟩ := resolve_eq_unfilled h.sound hl
    rw [hfailed true, hfailed false]
  · have hl := reads_of_resolve h.sound hr
    obtain rfl := eq_of_resolve_eq_ok h hr
    have hlenient := resolve_eq h hl false
    have hstrict := resolve_eq h hl true
    rw [if_neg (by simp)] at hlenient
    refine ⟨exists_resolve_strict_iff h hl, fun hw => ?_, fun hw => ⟨?_, ?_, rfl⟩⟩
    · rw [if_neg (by simp [hw])] at hstrict
      rw [hstrict, hlenient]
    · rw [hlenient, List.getLast?_concat]
      rfl
    · rw [if_pos ⟨rfl, hw⟩] at hstrict
      rw [hstrict, hlenient, List.dropLast_concat]

/-- Both warnings are in the failure, and the records are those before the summary. -/
theorem resolve_strict_twice :
    twice.Reachable ∧ twice.Reads twiceProperties.entries ∧ ∃ r,
      (twice.resolve false twiceProperties.toValue).result = .ok r ∧
      r.warnings = ["Unrecognized value for tab_width: '08'",
        "Unrecognized value for wrap: '80'"] ∧
      twice.resolve true twiceProperties.toValue =
        ⟨[⟨.warning, "Unrecognized value for tab_width: '08'"⟩,
          ⟨.debug, "Ignoring unknown property: root"⟩,
          ⟨.warning, "Unrecognized value for wrap: '80'"⟩], .error (.strictWarnings r.warnings)⟩ ∧
      (Failure.strictWarnings r.warnings).message = some ("Property warnings in strict mode: " ++
        "Unrecognized value for tab_width: '08'; Unrecognized value for wrap: '80'") := by
  have hreads : twice.Reads twiceProperties.entries := by decide +kernel
  obtain ⟨hreturns, -, hmodes⟩ := resolve_strict reachable_twice twiceProperties
  obtain ⟨r, hr⟩ := hreturns.2 hreads
  have hwarnings : r.warnings = ["Unrecognized value for tab_width: '08'",
      "Unrecognized value for wrap: '80'"] := by
    rw [eq_of_resolve_eq_ok reachable_twice hr]
    decide +kernel
  have hlogs : (twice.resolve false twiceProperties.toValue).logs.dropLast =
      [⟨.warning, "Unrecognized value for tab_width: '08'"⟩,
        ⟨.debug, "Ignoring unknown property: root"⟩,
        ⟨.warning, "Unrecognized value for wrap: '80'"⟩] := by decide +kernel
  obtain ⟨-, -, hrejected⟩ := hmodes r hr
  obtain ⟨-, hstrict, hmessage⟩ := hrejected (by simp [hwarnings])
  refine ⟨reachable_twice, hreads, r, hr, hwarnings, ?_, ?_⟩
  · rw [hstrict, hlogs]
  · rw [hmessage, hwarnings]
    decide +kernel

/-- Where members have an empty slot in place of texts, strict mode neither succeeds nor fails with
warnings. -/
theorem not_resolve_strict_slotted :
    slotted.Reachable ∧ (∀ c ∈ slotted.custom, c.Unhidden) ∧
      (¬ ∃ r, (slotted.resolve true slottedProperties.toValue).result = .ok r) ∧
      ¬ ∃ warnings, (slotted.resolve true slottedProperties.toValue).result =
        .error (.strictWarnings warnings) := by
  have hslotted : slotted.Reachable := reachable_enumerated _
  have hunread : ¬ slotted.Reads slottedProperties.entries := by decide +kernel
  refine ⟨hslotted, unhidden_slotted, fun ⟨_, hr⟩ => hunread (reads_of_resolve hslotted.sound hr),
    fun ⟨_, hw⟩ => ?_⟩
  rcases hslotted.resolve_eq_error hw with ⟨-, hl⟩ | ⟨hne, -⟩
  · exact hunread hl
  · cases hne

end EditorConfig.Catalog

import EditorConfig.Settings.View
import EditorConfig.Proofs.Accepted
import EditorConfig.Proofs.Built

/-! Settings against their own entries. Settings that a catalog ever produces hold nothing but
values that are read from texts, so their entries exist, and whoever reads these, by building,
resolving or validating, finds the same settings and nothing to report. -/

namespace EditorConfig

namespace Settings

/-- The settings come from a mapping, or from a resolution. -/
inductive Produced : Settings → Prop
  | built {cat : Catalog} {entries : List (Value × Value)} {s : Settings} :
      cat.Reachable → ofMapping cat entries = .ok s → Produced s
  | resolved {cat : Catalog} {strict : Bool} {raw : Value} {r : Resolution} :
      cat.Reachable → (cat.resolve strict raw).result = .ok r → Produced r.settings

variable {cat : Catalog} {s : Settings} {text : StandardProperty → Option String}

/-- Fields hold what they accepted. -/
theorem accept_of_ofFields {given : StandardProperty → Value} (hs : ofFields cat given = .ok s)
    (p : StandardProperty) : (cat.standard p).accept (given p) = .ok (s.value p) := by
  rw [ofFields] at hs
  split at hs
  · rename_i hnil
    cases hs
    have hnone := List.filterMap_eq_nil_iff.1 hnil p p.mem_all
    cases ha : (cat.standard p).accept (given p) with
    | error f => simp [ha] at hnone
    | ok found => simp [ha, Except.toOption]
  · cases hs

/-- Every value that settings hold is read from some text. -/
theorem exists_parse_of_ofFields (h : cat.Sound) {given : StandardProperty → Value}
    (hs : ofFields cat given = .ok s) {p : StandardProperty} {v : Value}
    (hv : s.value p = some v) : ∃ t, (cat.standard p).parse t = .ok (some v) := by
  have haccept := accept_of_ofFields hs p
  rw [hv] at haccept
  exact (h.follows_standard p).exists_parse_of_accept (h.fits_standard p)
    (h.legible_standard p) (h.distinguishable_standard p) haccept

theorem exists_ofFields_of_ofMapping {entries : List (Value × Value)}
    (hs : ofMapping cat entries = .ok s) : ∃ given, ofFields cat given = .ok s := by
  obtain ⟨-, -, hfields⟩ := bind_eq_ok hs
  refine ⟨fun p => (Value.entry? p.key entries).getD .null, ?_⟩
  cases hf : ofFields cat fun p => (Value.entry? p.key entries).getD .null with
  | error issues => simp [hf, Except.mapError] at hfields
  | ok t => simpa [hf, Except.mapError] using hfields

theorem exists_ofFields_of_conclude {strict : Bool} {p : Progress} {r : Resolution}
    (hr : cat.conclude strict p = .ok r) : ∃ given, ofFields cat given = .ok r.settings := by
  rw [Catalog.conclude] at hr
  split at hr
  · cases hr
  · split at hr <;> cases hr
    rename_i hs
    exact exists_ofFields_of_ofMapping hs

theorem exists_ofFields_of_resolve {strict : Bool} {raw : Value} {r : Resolution}
    (hr : (cat.resolve strict raw).result = .ok r) :
    ∃ given, ofFields cat given = .ok r.settings := by
  rw [Catalog.resolve] at hr
  split at hr
  · rename_i properties hp
    rw [Catalog.resolveProperties] at hr
    rcases ht : cat.takeAll {} properties.entries with ⟨p, f | ⟨⟩⟩
    · simp [ht, bind, Except.bind] at hr
    · cases hend : cat.conclude strict p with
      | error f => simp [ht, hend, bind, Except.bind] at hr
      | ok t =>
        obtain rfl : t = r := by simpa [ht, hend, bind, Except.bind] using hr
        exact exists_ofFields_of_conclude hend
  · cases hr

/-- Standard classes are the same in all catalogs, so it does not matter which of them has produced
the settings. -/
theorem Produced.exists_parse (hs : s.Produced) (h : cat.Sound) {p : StandardProperty} {v : Value}
    (hv : s.value p = some v) : ∃ t, (cat.standard p).parse t = .ok (some v) := by
  obtain ⟨origin, horigin, given, hgiven⟩ : ∃ origin : Catalog, origin.Sound ∧
      ∃ given, ofFields origin given = .ok s := by
    cases hs with
    | built hr hb => exact ⟨_, hr.sound, exists_ofFields_of_ofMapping hb⟩
    | resolved hr hb => exact ⟨_, hr.sound, exists_ofFields_of_resolve hb⟩
  rw [h.standard, ← horigin.standard]
  exact exists_parse_of_ofFields horigin hgiven hv

/-- Produced settings are spelled by the texts that their values are rendered as. -/
theorem Produced.exists_spelledBy (hs : s.Produced) (h : cat.Sound) :
    ∃ text, s.SpelledBy cat text := by
  refine ⟨fun p => (s.value p).bind fun v => (cat.render (cat.standard p) v).toOption,
    fun p hp => ?_, fun p t hp => ?_⟩
  · refine Option.eq_none_iff_forall_ne_some.2 fun v hv => ?_
    obtain ⟨t, ht⟩ := hs.exists_parse h hv
    have hrender := (h.render_standard_iff p t v).2 ht
    simp [hv, hrender, Except.toOption] at hp
  · obtain ⟨v, hv, ht⟩ := Option.bind_eq_some_iff.1 hp
    refine ⟨v, hv, (h.render_standard_iff p t v).1 ?_⟩
    cases hrender : cat.render (cat.standard p) v with
    | error f => simp [hrender, Except.toOption] at ht
    | ok t => simpa [hrender, Except.toOption] using ht

/-- Settings that a catalog has produced can be looked at in every catalog. -/
theorem Produced.exists_view (hs : s.Produced) (h : cat.Reachable) (dump : Yaml.Dump) :
    ∃ v, s.view dump cat = .ok v := by
  obtain ⟨text, ht⟩ := hs.exists_spelledBy h.sound
  have hentries := ht.entries_eq h.sound
  rw [view, yaml, Settings.text, hentries]
  exact ⟨_, rfl⟩

namespace SpelledBy

/-- Building settings from the texts that they are spelled by gives them back. -/
theorem ofMapping_eq (hs : s.SpelledBy cat text) :
    ofMapping cat (Properties.ofTexts text).mapping = .ok s := by
  have haccept : ∀ p, (cat.standard p).accept
      ((Value.entry? p.key (Properties.ofTexts text).mapping).getD .null) = .ok (s.value p) := by
    intro p
    rw [Properties.entry?_mapping, Properties.lookup?_ofTexts]
    cases ht : text p with
    | none =>
      rw [hs.unset p ht]
      rfl
    | some t =>
      obtain ⟨v, hv, hparse⟩ := hs.read p t ht
      simp [PropertyClass.accept, PropertyClass.acceptText, hparse, hv, Except.map]
  rw [ofMapping, Properties.mapM_fieldName, ofFields_eq_ok haccept]
  rfl

theorem recognizedSettings_eq (hs : s.SpelledBy cat text) (h : cat.Reachable) :
    cat.recognizedSettings (Properties.ofTexts text) = s := by
  refine Settings.ext (funext fun p => ?_)
  show ((Properties.ofTexts text).lookup? p.key).bind (cat.recognized? p.key) = s.value p
  rw [Properties.lookup?_ofTexts]
  cases ht : text p with
  | none =>
    rw [hs.unset p ht]
    rfl
  | some t =>
    obtain ⟨v, hv, hparse⟩ := hs.read p t ht
    rw [hv, Option.bind_some, h.recognized?_eq_some_iff]
    exact hparse

theorem filter_rejects_eq_nil (hs : s.SpelledBy cat text) (h : cat.Reachable) :
    (Properties.ofTexts text).entries.filter cat.rejects = [] := by
  refine List.filter_eq_nil_iff.2 ?_
  rintro ⟨key, t⟩ hmem hrejects
  obtain ⟨p, rfl, ht⟩ := StandardProperty.mem_listed.1 hmem
  obtain ⟨v, -, hparse⟩ := hs.read p t ht
  obtain ⟨c, hc, hnone⟩ := Catalog.rejects_iff.1 hrejects
  rw [h.property?_key p] at hc
  cases hc
  rw [hparse] at hnone
  cases hnone

/-- The texts are resolved without a warning, in both modes. -/
theorem resolve_eq (hs : s.SpelledBy cat text) (h : cat.Reachable) (strict : Bool) :
    ∃ r, (cat.resolve strict (Properties.ofTexts text).toValue).result = .ok r ∧
      r.settings = s ∧ r.warnings = [] ∧ r.unrecognized = [] ∧ r.unknownKeys = [] := by
  have hstandard : ∀ e ∈ (Properties.ofTexts text).entries,
      ∃ p : StandardProperty, p.key = e.1 := by
    intro e he
    obtain ⟨p, hp, -⟩ := StandardProperty.mem_listed.1 he
    exact ⟨p, hp⟩
  have hl : cat.Reads (Properties.ofTexts text).entries :=
    Catalog.Reachable.reads_of_standard (fun e he _ =>
      StandardProperty.isSome_ofKey?_iff.2 (hstandard e he)) h
  have hunrecognized := hs.filter_rejects_eq_nil h
  have hwarnings : (cat.resolution (Properties.ofTexts text)).warnings = [] := by
    rw [Catalog.resolution, Catalog.progress, hunrecognized, List.map_nil]
  have hunknown : (cat.resolution (Properties.ofTexts text)).unknownKeys = [] := by
    refine List.filter_eq_nil_iff.2 fun key hkey => ?_
    obtain ⟨e, he, rfl⟩ := List.mem_map.1 hkey
    obtain ⟨p, hp⟩ := hstandard e he
    have hregistered := Catalog.mem_registry_of_property? h.sound (h.property?_key p)
    simpa [hp] using hregistered
  refine ⟨cat.resolution (Properties.ofTexts text), ?_, hs.recognizedSettings_eq h, hwarnings,
    hunrecognized, hunknown⟩
  rw [Catalog.resolve_eq h hl, if_neg (by simp [hwarnings])]

theorem validate_eq (hs : s.SpelledBy cat text) (h : cat.Reachable) :
    cat.validate (Properties.ofTexts text).toValue = .ok [] := by
  have hnone : ∀ p, cat.rejectedText? (Properties.ofTexts text) p = none := by
    intro p
    refine Option.eq_none_iff_forall_ne_some.2 fun t ht => ?_
    have hmem := (Catalog.rejectedText?_eq_some_iff p t).1 ht
    rw [hs.filter_rejects_eq_nil h] at hmem
    cases hmem
  rw [Catalog.validate_eq h, StandardProperty.listed_eq_nil_iff.2 hnone, List.map_nil]

theorem isEmpty_iff (hs : s.SpelledBy cat text) :
    s.isEmpty ↔ StandardProperty.listed text = [] := by
  rw [StandardProperty.listed_eq_nil_iff, isEmpty, List.all_eq_true]
  have hfield : ∀ p, (s.value p).isNone ↔ text p = none := by
    intro p
    rw [← Option.not_isSome, hs.isSome_value p]
    simp
  simp [hfield]

end SpelledBy

/-- Settings survive being written as entries, in every catalog. -/
theorem Produced.survive (hs : s.Produced) (h : cat.Reachable) :
    ∃ raw : Properties, s.entries cat = .ok raw.entries ∧
      raw.entries.map Prod.fst =
        (StandardProperty.all.filter fun p => (s.value p).isSome).map StandardProperty.key ∧
      ofMapping cat raw.mapping = .ok s ∧
      (∀ strict, ∃ r, (cat.resolve strict raw.toValue).result = .ok r ∧
        r.settings = s ∧ r.warnings = [] ∧ r.unrecognized = [] ∧ r.unknownKeys = []) ∧
      cat.validate raw.toValue = .ok [] ∧
      (s.isEmpty ↔ raw.entries = []) := by
  obtain ⟨text, ht⟩ := hs.exists_spelledBy h.sound
  have hkeys : (Properties.ofTexts text).entries.map Prod.fst =
      (StandardProperty.all.filter fun p => (s.value p).isSome).map StandardProperty.key := by
    simp only [ht.isSome_value]
    exact StandardProperty.map_fst_listed text
  exact ⟨.ofTexts text, ht.entries_eq h.sound, hkeys, ht.ofMapping_eq, ht.resolve_eq h,
    ht.validate_eq h, ht.isEmpty_iff⟩

/-- Texts and values of every kind, at the ends of their ranges. -/
def mixedEntries : List (Value × Value) :=
  [(.text "max_line_length", .int 18446744073709551615), (.text "root", .bool true),
    (.text "trim_trailing_whitespace", .bool false), (.text "tab_width", .int 0),
    (.text "indent_size", .explicitNone), (.text "charset", .null),
    (.text "end_of_line", .text "cr")]

/-- Settings that the standard properties produce survive in a catalog with more of them. -/
theorem Produced.survive_mixed :
    ∃ s, ofMapping Catalog.initial mixedEntries = .ok s ∧ s.Produced ∧ Catalog.twice.Reachable ∧
      ∃ raw : Properties,
        raw.entries = [("indent_size", "tab"), ("tab_width", "0"), ("end_of_line", "cr"),
          ("trim_trailing_whitespace", "false"), ("max_line_length", "18446744073709551615")] ∧
        s.entries Catalog.twice = .ok raw.entries ∧
        ofMapping Catalog.twice raw.mapping = .ok s ∧
        Catalog.twice.validate raw.toValue = .ok [] ∧ s.isEmpty = false := by
  obtain ⟨s, hs, hentries⟩ : ∃ s, ofMapping Catalog.initial mixedEntries = .ok s ∧
      s.entries Catalog.twice = .ok [("indent_size", "tab"), ("tab_width", "0"),
        ("end_of_line", "cr"), ("trim_trailing_whitespace", "false"),
        ("max_line_length", "18446744073709551615")] := ⟨_, rfl, rfl⟩
  have hproduced : s.Produced := .built .initial hs
  obtain ⟨raw, hraw, -, hback, -, hvalid, hempty⟩ := hproduced.survive Catalog.reachable_twice
  have heq := Except.ok.inj (hraw.symm.trans hentries)
  refine ⟨s, hs, hproduced, Catalog.reachable_twice, raw, heq, hraw, hback, hvalid, ?_⟩
  rw [Bool.eq_false_iff, ne_eq, hempty, heq]
  simp

end Settings

end EditorConfig

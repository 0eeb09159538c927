import Mathlib.Data.List.Basic
import EditorConfig.Resolution
import EditorConfig.Proofs.Reading

/-! The exact result of a resolution. As long as the properties of the entries can read, the entries
are all taken, in their order, and what is collected can be read off the entries. What is accepted
fits the settings, so only warnings are in the way of a result. -/

namespace EditorConfig

@[simp] theorem Value.written_text (s : String) : (Value.text s).written = Text.quoted s := rfl

theorem unrecognizedText_text (key s : String) :
    unrecognizedText key (.text s) = "Unrecognized value for " ++ key ++ ": " ++ Text.quoted s := by
  unfold unrecognizedText
  rw [Value.written_text]

namespace Catalog

/-- The value that the property of a key reads from a text. -/
def recognized? (cat : Catalog) (key raw : String) : Option Value :=
  (cat.property? key).bind fun c => (c.parse raw).toOption.join

/-- The key of the entry has a property, which does not recognize the text. -/
def rejects (cat : Catalog) (e : String × String) : Bool :=
  match cat.property? e.1 with
  | none => false
  | some c =>
    match c.parse e.2 with
    | .ok none => true
    | _ => false

theorem rejects_iff {cat : Catalog} {key raw : String} :
    cat.rejects (key, raw) ↔ ∃ c, cat.property? key = some c ∧ c.parse raw = .ok none := by
  unfold rejects
  split
  · rename_i h
    simp [h]
  · rename_i c h
    split
    · rename_i hp
      simp only [true_iff]
      exact ⟨c, h, hp⟩
    · rename_i hp
      constructor
      · intro hf
        cases hf
      · rintro ⟨d, hd, hn⟩
        rw [h] at hd
        cases hd
        exact absurd hn hp

/-- The record of an entry that is not accepted. -/
def entryRecord? (cat : Catalog) (e : String × String) : Option LogRecord :=
  if e.1 ∉ cat.registry.map Prod.fst then some ⟨.debug, "Ignoring unknown property: " ++ e.1⟩
  else if cat.rejects e then
    some ⟨.warning, "Unrecognized value for " ++ e.1 ++ ": " ++ Text.quoted e.2⟩
  else none

/-- What is collected from entries when all of them are taken. -/
def progress (cat : Catalog) (entries : List (String × String)) : Progress where
  values := entries.filterMap fun e => (cat.recognized? e.1 e.2).map (Prod.mk e.1)
  unrecognized := entries.filter cat.rejects
  unknownKeys := (entries.map Prod.fst).filter (· ∉ cat.registry.map Prod.fst)
  warnings := (entries.filter cat.rejects).map fun e =>
    "Unrecognized value for " ++ e.1 ++ ": " ++ Text.quoted e.2
  logs := entries.filterMap cat.entryRecord?

theorem length_values_progress (cat : Catalog) (entries : List (String × String)) :
    (cat.progress entries).values.length =
      entries.countP fun e => (cat.recognized? e.1 e.2).isSome := by
  simp [progress, List.length_filterMap_eq_countP]

theorem isSome_property?_iff {cat : Catalog} (h : cat.Sound) {key : String} :
    (cat.property? key).isSome ↔ key ∈ cat.registry.map Prod.fst := h.knows_iff

theorem mem_registry_of_property? {cat : Catalog} (h : cat.Sound) {key : String}
    {c : PropertyClass} (hc : cat.property? key = some c) : key ∈ cat.registry.map Prod.fst :=
  (isSome_property?_iff h).1 (by simp [hc])

section Take

variable {cat : Catalog} {done : List (String × String)} {key raw : String}

theorem ignore_progress (h : cat.Sound) (hp : cat.property? key = none) :
    (cat.progress done).ignore key = cat.progress (done ++ [(key, raw)]) := by
  have hunknown : key ∉ cat.registry.map Prod.fst := by simp [← isSome_property?_iff h, hp]
  simp [progress, Progress.ignore, recognized?, rejects, entryRecord?, hunknown, hp]

theorem warn_progress (h : cat.Sound) (hkey : key ∉ done.map Prod.fst) {c : PropertyClass}
    (hp : cat.property? key = some c) (hs : c.parse raw = .ok none) :
    (cat.progress done).warn key raw = cat.progress (done ++ [(key, raw)]) := by
  have hknown := mem_registry_of_property? h hp
  have hnew : key ∉ (done.filter cat.rejects).map Prod.fst :=
    fun hmem => hkey (List.map_subset _ (List.filter_subset_self done) hmem)
  simp only [progress, Progress.warn, Entries.put_of_not_mem hnew]
  simp [recognized?, rejects, entryRecord?, hknown, hp, hs, unrecognizedText_text, Except.toOption]

theorem accept_progress (h : cat.Sound) (hkey : key ∉ done.map Prod.fst) {c : PropertyClass}
    {v : Value} (hp : cat.property? key = some c) (hs : c.parse raw = .ok (some v)) :
    (cat.progress done).accept key v = cat.progress (done ++ [(key, raw)]) := by
  have hknown := mem_registry_of_property? h hp
  have hnew : key ∉ (cat.progress done).values.map Prod.fst := by
    intro hmem
    obtain ⟨w, hw, rfl⟩ := List.mem_map.1 hmem
    obtain ⟨e, he, hv⟩ := List.mem_filterMap.1 hw
    obtain ⟨x, -, rfl⟩ := Option.map_eq_some_iff.1 hv
    exact hkey (List.mem_map_of_mem he)
  rw [Progress.accept, Entries.put_of_not_mem hnew]
  simp [progress, recognized?, rejects, entryRecord?, hknown, hp, hs, Except.toOption]

/-- An entry that can be read is added to those that were taken before. -/
theorem Sound.take_eq (h : cat.Sound) (hkey : key ∉ done.map Prod.fst)
    (hl : ∀ c ∈ cat.property? key, c.Legible) :
    cat.take (cat.progress done) key raw = .ok (cat.progress (done ++ [(key, raw)])) := by
  rw [take]
  cases hp : cat.property? key with
  | none => rw [ignore_progress h hp]
  | some c =>
    obtain ⟨found, hs⟩ := h.exists_parse hp (hl c hp) raw
    cases found with
    | none => simp [hs, warn_progress h hkey hp hs, bind, Except.bind, pure, Except.pure]
    | some v => simp [hs, accept_progress h hkey hp hs, bind, Except.bind, pure, Except.pure]

/-- Any other entry is not taken, because of the slot. -/
theorem Sound.take_eq_error (h : cat.Sound) (hl : ¬ ∀ c ∈ cat.property? key, c.Legible)
    (p : Progress) : cat.take p key raw = .error (.unfilled textTrait) := by
  rw [take]
  cases hp : cat.property? key with
  | none => simp [hp] at hl
  | some c =>
    cases hs : c.parse raw with
    | ok found => exact absurd (by simpa [hp] using h.legible_of_parse hp hs) hl
    | error f =>
      obtain rfl := h.parse_eq_error hp hs
      simp [hs, bind, Except.bind]

end Take

/-- Entries that can be read are all taken. -/
theorem Sound.takeAll_eq {cat : Catalog} (h : cat.Sound) (done : List (String × String))
    {entries : List (String × String)} (hkeys : ((done ++ entries).map Prod.fst).Nodup)
    (hl : cat.Reads entries) :
    cat.takeAll (cat.progress done) entries = (cat.progress (done ++ entries), .ok ()) := by
  induction entries generalizing done with
  | nil => rw [List.append_nil, takeAll]
  | cons e rest ih =>
    have hkey : e.1 ∉ done.map Prod.fst := Entries.not_mem_of_nodup hkeys
    have hrest : cat.Reads rest := fun x hx => hl x (List.mem_cons_of_mem e hx)
    rw [List.append_cons] at hkeys ⊢
    rw [takeAll, h.take_eq hkey (hl e List.mem_cons_self)]
    exact ih _ hkeys hrest

/-- Otherwise entries are taken up to the first one that cannot be read. -/
theorem Sound.takeAll_eq_error {cat : Catalog} (h : cat.Sound) (done : List (String × String))
    {entries : List (String × String)} (hkeys : ((done ++ entries).map Prod.fst).Nodup)
    (hl : ¬ cat.Reads entries) :
    ∃ taken, taken <+: entries ∧
      cat.takeAll (cat.progress done) entries =
        (cat.progress (done ++ taken), .error (.unfilled textTrait)) := by
  induction entries generalizing done with
  | nil => exact absurd (List.forall_mem_nil _) hl
  | cons e rest ih =>
    rw [takeAll]
    by_cases he : ∀ c ∈ cat.property? e.1, c.Legible
    · have hkey : e.1 ∉ done.map Prod.fst := Entries.not_mem_of_nodup hkeys
      have hrest : ¬ cat.Reads rest := fun hr => hl (List.forall_mem_cons.2 ⟨he, hr⟩)
      rw [List.append_cons] at hkeys
      obtain ⟨taken, hprefix, htaken⟩ := ih _ hkeys hrest
      refine ⟨e :: taken, List.cons_prefix_cons.2 ⟨rfl, hprefix⟩, ?_⟩
      rw [List.append_cons]
      simpa only [h.take_eq hkey he] using htaken
    · refine ⟨[], List.nil_prefix, ?_⟩
      rw [h.take_eq_error he, List.append_nil]

end Catalog

/-- Settings are built when every field accepts its value. -/
theorem Settings.ofFields_eq_ok {cat : Catalog} {given : StandardProperty → Value}
    {value : StandardProperty → Option Value}
    (h : ∀ p, (cat.standard p).accept (given p) = .ok (value p)) :
    ofFields cat given = .ok ⟨value⟩ := by
  have hissues : issues cat given = [] := by
    refine List.filterMap_eq_nil_iff.2 fun p _ => ?_
    rw [h p]
  rw [ofFields, hissues]
  simp [h, Except.toOption]

/-- Texts are field names. -/
theorem Settings.mapM_fieldName {ν : Type} (f : ν → Value) (entries : List (String × ν)) :
    (entries.map fun e => (Value.text e.1, f e.2)).mapM (fun e => fieldName e.1) =
      .ok (entries.map Prod.fst) := by
  induction entries with
  | nil => rfl
  | cons e rest ih =>
    rw [List.map_cons, List.mapM_cons, ih]
    rfl

namespace Catalog

/-- The property of a standard key is the standard one, whatever else is registered. -/
theorem Reachable.recognized?_eq_some_iff {cat : Catalog} (h : cat.Reachable)
    {p : StandardProperty} {s : String} {v : Value} :
    cat.recognized? p.key s = some v ↔ (cat.standard p).parse s = .ok (some v) := by
  rw [recognized?, h.property?_key p, Option.bind_some]
  cases (cat.standard p).parse s with
  | error f => simp [Except.toOption]
  | ok found => simp [Except.toOption]

/-- The value recognized for a standard property is one that its field accepts. -/
theorem accept_recognized {cat : Catalog} (h : cat.Reachable) (raw : Properties)
    (p : StandardProperty) :
    (cat.standard p).accept (((raw.lookup? p.key).bind (cat.recognized? p.key)).getD .null) =
      .ok ((raw.lookup? p.key).bind (cat.recognized? p.key)) := by
  cases hv : (raw.lookup? p.key).bind (cat.recognized? p.key) with
  | none => rfl
  | some v =>
    obtain ⟨s, -, hs⟩ := Option.bind_eq_some_iff.1 hv
    exact PropertyClass.accept_of_parse (h.sound.follows_standard p)
      (h.recognized?_eq_some_iff.1 hs)

/-- The settings of a resolution. -/
def recognizedSettings (cat : Catalog) (raw : Properties) : Settings :=
  ⟨fun p => (raw.lookup? p.key).bind (cat.recognized? p.key)⟩

/-- What properties come to once all entries are taken. -/
def resolution (cat : Catalog) (raw : Properties) : Resolution where
  settings := cat.recognizedSettings raw
  warnings := (cat.progress raw.entries).warnings
  unrecognized := raw.entries.filter cat.rejects
  unknownKeys := (raw.entries.map Prod.fst).filter (· ∉ cat.registry.map Prod.fst)

/-- The values that are collected make up the settings. -/
theorem ofMapping_values {cat : Catalog} (h : cat.Reachable) (raw : Properties) :
    Settings.ofMapping cat ((cat.progress raw.entries).values.map fun e => (.text e.1, e.2)) =
      .ok (cat.recognizedSettings raw) := by
  have hfields : Settings.ofFields cat (fun p => (Value.entry? p.key
      ((cat.progress raw.entries).values.map fun e => (.text e.1, e.2))).getD .null) =
      .ok (cat.recognizedSettings raw) := by
    refine Settings.ofFields_eq_ok fun p => ?_
    rw [Value.entry?_map (fun v => v), Option.map_id', progress, Entries.lookup_filterMap raw.nodup]
    exact accept_recognized h raw p
  rw [Settings.ofMapping, Settings.mapM_fieldName (fun v => v), hfields]
  rfl

theorem conclude_eq {cat : Catalog} (h : cat.Reachable) (strict : Bool) (raw : Properties) :
    cat.conclude strict (cat.progress raw.entries) =
      if strict ∧ (cat.resolution raw).warnings ≠ [] then
        .error (.strictWarnings (cat.resolution raw).warnings)
      else .ok (cat.resolution raw) := by
  rw [conclude, ofMapping_values h]
  rfl

/-- Both modes conclude from the same progress. -/
theorem resolve_eq {cat : Catalog} (h : cat.Reachable) {raw : Properties}
    (hl : cat.Reads raw.entries) (strict : Bool) :
    cat.resolve strict raw.toValue =
      if strict ∧ (cat.resolution raw).warnings ≠ [] then
        ⟨raw.entries.filterMap cat.entryRecord?,
          .error (.strictWarnings (cat.resolution raw).warnings)⟩
      else
        ⟨raw.entries.filterMap cat.entryRecord? ++ [(cat.progress raw.entries).summary],
          .ok (cat.resolution raw)⟩ := by
  have hall : cat.takeAll {} raw.entries = (cat.progress raw.entries, .ok ()) :=
    h.sound.takeAll_eq [] raw.nodup hl
  rw [resolve, Value.properties_toValue]
  simp only [resolveProperties, hall, bind, Except.bind, conclude_eq h]
  by_cases hs : strict ∧ (cat.resolution raw).warnings ≠ []
  · rw [if_pos hs, if_pos hs]
    rfl
  · rw [if_neg hs, if_neg hs]
    rfl

/-- A property that cannot read ends both modes, where its entry comes. -/
theorem resolve_eq_unfilled {cat : Catalog} (h : cat.Sound) {raw : Properties}
    (hl : ¬ cat.Reads raw.entries) :
    ∃ taken, taken <+: raw.entries ∧ ∀ strict, cat.resolve strict raw.toValue =
      ⟨taken.filterMap cat.entryRecord?, .error (.unfilled textTrait)⟩ := by
  obtain ⟨taken, hprefix, hall⟩ : ∃ taken, taken <+: raw.entries ∧
      cat.takeAll {} raw.entries = (cat.progress taken, .error (.unfilled textTrait)) :=
    h.takeAll_eq_error [] raw.nodup hl
  refine ⟨taken, hprefix, fun strict => ?_⟩
  rw [resolve, Value.properties_toValue]
  simp only [resolveProperties, hall, bind, Except.bind]
  rfl

/-- Whatever resolves could be read. -/
theorem reads_of_resolve {cat : Catalog} (h : cat.Sound) {strict : Bool} {raw : Properties}
    {r : Resolution} (hr : (cat.resolve strict raw.toValue).result = .ok r) :
    cat.Reads raw.entries := by
  by_contra hl
  obtain ⟨taken, -, hfailed⟩ := resolve_eq_unfilled h hl
  rw [hfailed strict] at hr
  cases hr

def twiceProperties : Properties where
  entries := [("wrap_column", "off"), ("tab_width", "08"), ("root", "true"), ("wrap", "80"),
    ("indent_size", "tab")]
  nodup := by decide

/-- The exact result of a lenient resolution. -/
theorem resolve_lenient {cat : Catalog} (h : cat.Reachable) {raw : Properties}
    (hl : cat.Reads raw.entries) :
    ∃ r : Resolution,
      r.unknownKeys = (raw.entries.map Prod.fst).filter (· ∉ cat.registry.map Prod.fst) ∧
      r.unrecognized = raw.entries.filter cat.rejects ∧
      r.warnings = r.unrecognized.map (fun e =>
        "Unrecognized value for " ++ e.1 ++ ": " ++ Text.quoted e.2) ∧
      (∀ p, r.settings.value p = (raw.lookup? p.key).bind (cat.recognized? p.key)) ∧
      cat.resolve false raw.toValue =
        ⟨raw.entries.filterMap cat.entryRecord? ++
          [⟨.info, "Resolved " ++
            toString (raw.entries.countP fun e => (cat.recognized? e.1 e.2).isSome) ++
            " properties (" ++ toString r.unrecognized.length ++ " unrecognized, " ++
            toString r.unknownKeys.length ++ " unknown)"⟩], .ok r⟩ := by
  refine ⟨cat.resolution raw, rfl, rfl, rfl, fun p => rfl, ?_⟩
  rw [resolve_eq h hl, if_neg (by simp), Progress.summary, length_values_progress]
  rfl

/-- Both keys of a class are read by the rule that was given last. -/
theorem resolve_lenient_twice :
    twice.Reachable ∧ twice.Reads twiceProperties.entries ∧ ∃ r : Resolution,
      r.unknownKeys = ["root"] ∧
      r.unrecognized = [("tab_width", "08"), ("wrap", "80")] ∧
      r.warnings = ["Unrecognized value for tab_width: '08'",
        "Unrecognized value for wrap: '80'"] ∧
      r.settings.value .indentSize = some .explicitNone ∧ r.settings.value .tabWidth = none ∧
      twice.resolve false twiceProperties.toValue =
        ⟨[⟨.warning, "Unrecognized value for tab_width: '08'"⟩,
          ⟨.debug, "Ignoring unknown property: root"⟩,
          ⟨.warning, "Unrecognized value for wrap: '80'"⟩,
          ⟨.info, "Resolved 2 properties (2 unrecognized, 1 unknown)"⟩], .ok r⟩ := by
  have hreads : twice.Reads twiceProperties.entries := by decide +kernel
  obtain ⟨r, hunknown, hunrecognized, hwarnings, hfields, hrun⟩ :=
    resolve_lenient reachable_twice hreads
  have hkeys : r.unknownKeys = ["root"] := hunknown.trans (by decide +kernel)
  have hentries : r.unrecognized = [("tab_width", "08"), ("wrap", "80")] :=
    hunrecognized.trans (by decide +kernel)
  have hlogs : twiceProperties.entries.filterMap twice.entryRecord? =
      [⟨.warning, "Unrecognized value for tab_width: '08'"⟩,
        ⟨.debug, "Ignoring unknown property: root"⟩,
        ⟨.warning, "Unrecognized value for wrap: '80'"⟩] := by decide +kernel
  have hcount : (twiceProperties.entries.countP fun e =>
      (twice.recognized? e.1 e.2).isSome) = 2 := by decide +kernel
  refine ⟨reachable_twice, hreads, r, hkeys, hentries, ?_, (hfields _).trans rfl,
    (hfields _).trans rfl, ?_⟩
  · rw [hwarnings, hentries]
    decide +kernel
  · rw [hrun, hlogs, hcount, hentries, hkeys]
    rfl

/-- Where members have an empty slot in place of texts, an entry cannot be taken. -/
theorem not_resolve_lenient_slotted :
    slotted.Reachable ∧ (∀ c ∈ slotted.custom, c.Unhidden) ∧
      ¬ ∃ r, (slotted.resolve false slottedProperties.toValue).result =
        .ok r := by
  have hslotted : slotted.Reachable := reachable_enumerated _
  refine ⟨hslotted, unhidden_slotted, fun ⟨r, hr⟩ => ?_⟩
  exact absurd (reads_of_resolve hslotted.sound hr) (by decide +kernel)

end Catalog

end EditorConfig

import EditorConfig.Proofs.Foreign
import EditorConfig.Proofs.Served
import EditorConfig.Proofs.Validated
import EditorConfig.Proofs.Visible

/-! Reports on raw properties. A report shows a key that has passed the check of the registry, and a
value between quotes. Both are printable, so no value gets anything into a report that ends its line
or changes how it is shown. Unknown keys have passed no check, but only debug records show them. -/

namespace EditorConfig

namespace Text

theorem isPrintable_of_between {low high c : Char} (hlow : low ≤ c) (hhigh : c ≤ high)
    (h : 0x20 ≤ low.toNat) (h' : high.toNat ≤ 0x7e) : isPrintable c = true :=
  isPrintable_of_ascii (Nat.le_trans h hlow) (Nat.le_trans hhigh h')

theorem printable_of_isKey {key : String} (h : isKey key) : Printable key := by
  obtain ⟨c, cs, hkey, hc, hcs⟩ := isKey_iff.1 h
  have hlower : ∀ d : Char, 'a' ≤ d ∧ d ≤ 'z' → isPrintable d = true :=
    fun d hd => isPrintable_of_between hd.1 hd.2 (by decide) (by decide)
  rw [Printable, hkey]
  refine List.forall_mem_cons.2 ⟨hlower c hc, fun d hd => ?_⟩
  rcases hcs d hd with hletter | hdigit | rfl
  · exact hlower d hletter
  · exact isPrintable_of_between hdigit.1 hdigit.2 (by decide) (by decide)
  · decide

end Text

open Text (Printable)

theorem printable_unrecognizedText {key : String} (h : isKey key) (s : String) :
    Printable (unrecognizedText key (.text s)) := by
  have hkey := Text.printable_of_isKey h
  have hopening : Printable "Unrecognized value for " := by decide
  have hcolon : Printable ": " := by decide
  exact ((hopening.append hkey).append hcolon).append (Text.printable_quoted s)

theorem printable_strictWarnings {warnings : List String} {m : String}
    (h : ∀ w ∈ warnings, Printable w) (hm : (Failure.strictWarnings warnings).message = some m) :
    Printable m := by
  have hopening : Printable "Property warnings in strict mode: " := by decide
  have hseparator : Printable "; " := by decide
  cases hm
  exact hopening.append (hseparator.intercalate h)

theorem Member.not_isExpected_called (m : Member) : m.called.isExpected = false := by
  rw [called]
  cases h : m.obstacle? .call with
  | none => rfl
  | some f => exact m.not_isExpected_of_obstacle? h

namespace PropertyClass

variable {c : PropertyClass} {key : String}

theorem not_isExpected_of_occupant {a : Attribute} {f : Failure} (h : c.occupant a = .error f) :
    f.isExpected = false := by
  unfold occupant at h
  split at h
  · rename_i m hm
    cases hobstacle : m.obstacle? .access with
    | none => simp [Member.demand, hobstacle, bind, Except.bind, pure, Except.pure] at h
    | some g =>
      obtain rfl : g = f := by simpa [Member.demand, hobstacle, bind, Except.bind] using h
      exact Member.not_isExpected_of_obstacle? hobstacle
  · split at h <;> cases h
    rfl

/-- An attribute that is missing is no reason for a default. -/
theorem not_isExpected_lacks (c : PropertyClass) (a : Attribute) :
    (c.lacks a).isExpected = false := by
  unfold lacks
  split
  · rename_i o ho
    cases o with
    | member m => exact m.not_isExpected_called
    | trait t => rfl
  · rename_i f hf
    exact not_isExpected_of_occupant hf

theorem not_isExpected_of_parse {s : String} {f : Failure} (h : c.parse s = .error f) :
    f.isExpected = false := by
  cases hr : c.rule with
  | none =>
    obtain rfl : c.lacks .rule = f := by simpa [parse, require, hr, bind, Except.bind] using h
    exact c.not_isExpected_lacks .rule
  | some r =>
    rw [parse_of_rule hr] at h
    rw [Rule.parse_eq_error h]
    rfl

/-- A look-up reports the text that stands under the key of the class. -/
theorem lookup_eq_unrecognized {raw : Properties} {w : Value}
    (h : c.lookup raw.mapping = .error (.unrecognized key w)) :
    c.key = some key ∧ ∃ s, w = .text s ∧ raw.lookup? key = some s := by
  have hexpected : ∀ f : Failure, f.isExpected = false →
      c.lookup raw.mapping = .error f → False := by
    intro f hf hfailed
    obtain rfl := Except.error.inj (hfailed.symm.trans h)
    cases hf
  cases hj : c.key with
  | none =>
    exact (hexpected _ (c.not_isExpected_lacks .key)
      (by simp [lookup, require, hj, bind, Except.bind])).elim
  | some j =>
    cases hs : raw.lookup? j with
    | none => cases (lookup_of_absent hj hs).symm.trans h
    | some s =>
      cases hparse : c.parse s with
      | error f =>
        have hentry : Value.entry? j raw.mapping = some (.text s) := by
          rw [Properties.entry?_mapping, hs, Option.map_some]
        exact (hexpected f (not_isExpected_of_parse hparse)
          (lookup_of_read_error hj hentry hparse)).elim
      | ok found =>
        cases found with
        | none =>
          cases (lookup_of_unrecognized hj hs hparse).symm.trans h
          exact ⟨rfl, s, rfl, hs⟩
        | some v => cases (lookup_of_recognized hj hs hparse).symm.trans h

theorem key_assignAll {as : List Assignment} (h : (c.assignAll as).1.key = some key) :
    c.key = some key ∨ .key key ∈ as := by
  refine assignAll_induction (P := fun d => d.key = some key → c.key = some key ∨ .key key ∈ as)
    (fun d a ha hd hkey => ?_) .inl h
  cases a with
  | key k =>
    obtain rfl : k = key := Option.some.inj hkey
    exact .inr ha
  | _ => exact hd hkey

theorem key_install {r : Rule} (h : (c.install r).1.key = some key) : c.key = some key := by
  rcases key_assignAll h with hold | hmem
  · exact hold
  · exact absurd rfl (Rule.target_of_mem_assignments hmem).1

/-- A class gets its key from a declaration that did not refuse it, also if this failed later. -/
theorem key_of_declare {r : Rule} {given : String} {refused : Option Failure}
    (h : (c.declare r given refused).1.key = some key) :
    c.key = some key ∨ key = given ∧ refused = none := by
  have hinstall := @key_install c key r
  unfold declare at h
  split at h
  · exact .inl h
  · split at h <;> rename_i hd <;> rw [hd] at hinstall
    · exact .inl (hinstall h)
    · exact .inl (hinstall h)
    · rcases key_assignAll h with hkept | hmem
      · exact .inl (hinstall hkept)
      · exact .inr ⟨by simpa using hmem, rfl⟩

end PropertyClass

namespace Catalog

variable {cat : Catalog} {raw : Properties}

/-- The key of a class has the shape of a key, whether or not the class is registered under it. -/
theorem Reachable.isKey_of_key (h : cat.Reachable) {ref : ClassRef} {c : PropertyClass}
    {key : String} (hc : cat.class? ref = some c) (hkey : c.key = some key) : isKey key := by
  induction h generalizing ref c with
  | refl =>
    cases ref with
    | standard p =>
      obtain ⟨d, j, hd, hj, -, hback⟩ := sound_initial.exists_latest (Reachable.initial.ref?_key p)
      cases hc.symm.trans hd
      cases hkey.symm.trans hj
      exact sound_initial.shaped _ (sound_initial.ref?_eq_some_iff.1 hback)
    | custom i => simp [class?, Catalog.initial] at hc
  | @step cat change _ _ ih =>
    rcases class?_apply_cases hc with hold | ⟨name, literals, -, hnew⟩ |
      ⟨r, given, d, -, hd, rfl⟩
    · exact ih hold hkey
    · obtain ⟨members, traits, rfl⟩ := PropertyClass.exists_fresh_of_create hnew
      cases hkey
    · rcases PropertyClass.key_of_declare hkey with hold | ⟨rfl, hnone⟩
      · exact ih hd hold
      · exact (keyObjection_eq_none_iff.1 hnone).1

/-- An entry is only rejected under a key that has the shape of one. -/
theorem Sound.isKey_of_rejects (h : cat.Sound) {e : String × String} (hr : cat.rejects e) :
    isKey e.1 := by
  obtain ⟨c, hc, -⟩ := rejects_iff.1 hr
  exact h.isKey_of_property? hc

theorem Sound.printable_of_entryRecord? (h : cat.Sound) {e : String × String} {record : LogRecord}
    (hr : cat.entryRecord? e = some record) (hl : record.level = .warning) :
    Printable record.text := by
  rw [entryRecord?] at hr
  split at hr
  · cases hr
    cases hl
  · split at hr <;> cases hr
    rename_i hrejects
    rw [← unrecognizedText_text]
    exact printable_unrecognizedText (h.isKey_of_rejects hrejects) e.2

/-- The summary is no warning, so the records of warnings are those of entries, also where not all
of them are taken. -/
theorem Reachable.exists_entry_of_mem_logs (h : cat.Reachable) {strict : Bool} {record : LogRecord}
    (hr : record ∈ (cat.resolve strict raw.toValue).logs) (hl : record.level = .warning) :
    ∃ e ∈ raw.entries, cat.entryRecord? e = some record := by
  by_cases hreads : cat.Reads raw.entries
  · rw [resolve_eq h hreads] at hr
    split at hr
    · exact List.mem_filterMap.1 hr
    · rcases List.mem_append.1 hr with hentry | hsummary
      · exact List.mem_filterMap.1 hentry
      · rw [List.mem_singleton] at hsummary
        rw [hsummary] at hl
        cases hl
  · obtain ⟨taken, hprefix, hfailed⟩ := resolve_eq_unfilled h.sound hreads
    rw [hfailed] at hr
    obtain ⟨e, he, hrecord⟩ := List.mem_filterMap.1 hr
    exact ⟨e, hprefix.subset he, hrecord⟩

theorem Sound.printable_warnings (h : cat.Sound) (raw : Properties) :
    ∀ w ∈ (cat.resolution raw).warnings, Printable w := by
  intro w hw
  obtain ⟨e, he, rfl⟩ := List.mem_map.1 hw
  rw [← unrecognizedText_text]
  exact printable_unrecognizedText (h.isKey_of_rejects (List.mem_filter.1 he).2) e.2

theorem Reachable.get_eq_unrecognized (h : cat.Reachable) {prop : PropertyRef} {key : String}
    {w : Value} (hget : cat.get raw.mapping prop = .error (.unrecognized key w)) :
    isKey key ∧ ∃ s, w = .text s := by
  obtain ⟨ref, c, hc, hlookup⟩ : ∃ ref c, cat.class? ref = some c ∧
      c.lookup raw.mapping = .error (.unrecognized key w) := by
    cases prop with
    | key k =>
      cases hk : cat.ref? k with
      | none => cases (get_unknown hk raw.mapping).symm.trans hget
      | some ref =>
        obtain ⟨c, hc, hp⟩ := h.sound.property?_of_ref? hk
        exact ⟨ref, c, hc, (get_key hp raw.mapping).symm.trans hget⟩
    | named ref =>
      cases hc : cat.class? ref with
      | none => simp [get, find, classOf, hc, bind, Except.bind] at hget
      | some c => exact ⟨ref, c, hc, (get_named hc raw.mapping).symm.trans hget⟩
  obtain ⟨hkey, s, hw, -⟩ := PropertyClass.lookup_eq_unrecognized hlookup
  exact ⟨h.isKey_of_key hc hkey, s, hw⟩

/-- Whatever the properties hold, what is reported of their values is printable, and so does not
steer how it is shown. -/
theorem Reachable.reports_printable (h : cat.Reachable) (raw : Properties) :
    (∀ strict, ∀ record ∈ (cat.resolve strict raw.toValue).logs,
      record.level = .warning → Printable record.text) ∧
    (∀ strict r, (cat.resolve strict raw.toValue).result = .ok r →
      ∀ w ∈ r.warnings, Printable w) ∧
    (∀ strict f m, (cat.resolve strict raw.toValue).result = .error f → f.message = some m →
      Printable m) ∧
    (∃ reports, cat.validate raw.toValue = .ok reports ∧ ∀ m ∈ reports, Printable m) ∧
    (∀ prop key w m, cat.get raw.mapping prop = .error (.unrecognized key w) →
      (Failure.unrecognized key w).message = some m → Printable m) ∧
    ∀ s, Printable s → ∀ c ∈ s.toList, ¬ Text.Steering c := by
  refine ⟨fun strict record hr hl => ?_, fun strict r hr => ?_, fun strict f m hf hm => ?_,
    ⟨_, validate_eq h raw, ?_⟩, fun prop key w m hget hm => ?_, fun s hs => hs.not_steering⟩
  · obtain ⟨e, -, hrecord⟩ := h.exists_entry_of_mem_logs hr hl
    exact h.sound.printable_of_entryRecord? hrecord hl
  · rw [eq_of_resolve_eq_ok h hr]
    exact h.sound.printable_warnings raw
  · rcases h.resolve_eq_error hf with ⟨rfl, -⟩ | ⟨rfl, -⟩
    · exact printable_strictWarnings (h.sound.printable_warnings raw) hm
    · cases hm
  · intro m hm
    obtain ⟨⟨key, s⟩, hmem, rfl⟩ := List.mem_map.1 hm
    obtain ⟨p, rfl, -⟩ := StandardProperty.mem_listed.1 hmem
    rw [← unrecognizedText_text]
    exact printable_unrecognizedText (h.sound.isKey_of_property? (h.property?_key p)) s
  · obtain ⟨hkey, s, rfl⟩ := h.get_eq_unrecognized hget
    cases hm
    exact printable_unrecognizedText hkey s

/-- Texts that end the line, clear the screen and turn the direction of writing, the second one
under a key that is unknown. -/
def steeringProperties : Properties where
  entries := [("tab_width", "8\n\x1b[2J"), ("wrap\n", "\r"), ("wrap", "\u202eno\x00")]
  nodup := by decide

/-- The texts are escaped in all reports, and only a debug record shows the unknown key as it is. -/
theorem Reachable.reports_printable_twice :
    twice.Reachable ∧ (∀ e ∈ steeringProperties.entries, ¬ Printable e.2) ∧
      (∃ record ∈ (twice.resolve false steeringProperties.toValue).logs,
        record.text = "Unrecognized value for tab_width: '8\\n\\x1b[2J'" ∧
        Printable record.text) ∧
      (∃ record ∈ (twice.resolve false steeringProperties.toValue).logs,
        record.level = .debug ∧ ¬ Printable record.text) ∧
      (∃ f m, (twice.resolve true steeringProperties.toValue).result = .error f ∧
        f.message = some m ∧ Printable m) ∧
      ∃ w m, twice.get steeringProperties.mapping (.key "wrap_column") =
          .error (.unrecognized "wrap" w) ∧
        (Failure.unrecognized "wrap" w).message = some m ∧ Printable m := by
  have hreads : twice.Reads steeringProperties.entries := by decide +kernel
  have hlogs : (twice.resolve false steeringProperties.toValue).logs.take 2 =
      [⟨.warning, "Unrecognized value for tab_width: '8\\n\\x1b[2J'"⟩,
        ⟨.debug, "Ignoring unknown property: wrap\n"⟩] := by decide +kernel
  have hmem : ∀ record ∈ (twice.resolve false steeringProperties.toValue).logs.take 2,
      record ∈ (twice.resolve false steeringProperties.toValue).logs :=
    fun _ => List.mem_of_mem_take
  simp only [hlogs, List.forall_mem_cons] at hmem
  obtain ⟨hwarning, hdebug, -⟩ := hmem
  have hstrict : (twice.resolve true steeringProperties.toValue).result =
      .error (.strictWarnings (twice.resolution steeringProperties).warnings) := by
    rw [resolve_eq reachable_twice hreads, if_pos ⟨rfl, by decide +kernel⟩]
  have hget : twice.get steeringProperties.mapping (.key "wrap_column") =
      .error (.unrecognized "wrap" (.text "\u202eno\x00")) := rfl
  obtain ⟨hwarns, -, hfails, -, hgets, -⟩ := reachable_twice.reports_printable steeringProperties
  exact ⟨reachable_twice, by decide +kernel, ⟨_, hwarning, rfl, hwarns false _ hwarning rfl⟩,
    ⟨_, hdebug, rfl, by decide +kernel⟩, ⟨_, _, hstrict, rfl, hfails true _ _ hstrict rfl⟩,
    ⟨_, _, hget, rfl, hgets _ _ _ _ hget rfl⟩⟩

end Catalog

end EditorConfig

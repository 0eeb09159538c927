import EditorConfig.Proofs.Restored
import EditorConfig.Proofs.Served

/-! What fields take. Accepting, rendering and reading go through the kinds of properties and values
in three ways of their own; all of them come to the same values. Settings are built if every field
takes what it is given, and otherwise report the fields that do not, in their order. -/

namespace EditorConfig

/-- The value is neither a text nor the null value. -/
def Value.Typed : Value → Prop
  | .null | .text _ => False
  | _ => True

/-- The mapping of values that are listed with texts as keys. -/
def Value.keyed (data : List (String × Value)) : List (Value × Value) :=
  data.map fun e => (.text e.1, e.2)

theorem Value.entry?_keyed (data : List (String × Value)) (key : String) :
    entry? key (keyed data) = data.lookup key := by
  rw [keyed, entry?_map (fun v => v), Option.map_id']

/-- What can come of a value that is given as such: it is kept as it is, or refused for a reason
that shows at most the value. -/
inductive Outcome (v : Value) : Except Refusal Value → Prop
  | kept : Outcome v (.ok v)
  | invalid : Outcome v (.error (.invalid v))
  | other {r : Refusal} : r.unwritten? = none → Outcome v (.error r)

theorem outcome_acceptInteger (v : Value) : Outcome v (acceptInteger v) := by
  cases v with
  | int n =>
    simp only [acceptInteger]
    split
    · exact .kept
    · exact .other rfl
  | _ => exact .invalid

theorem outcome_acceptTruth (v : Value) : Outcome v (acceptTruth v) := by
  cases v with
  | bool b => exact .kept
  | _ => exact .invalid

theorem outcome_acceptMember (members : List Member) (v : Value) :
    Outcome v (acceptMember members v) := by
  cases v with
  | member m =>
    simp only [acceptMember]
    split
    · exact .kept
    · exact .invalid
  | _ => exact .invalid

namespace PropertyClass

variable {c : PropertyClass} {v w : Value}

theorem outcome_acceptTyped (c : PropertyClass) (v : Value) : Outcome v (c.acceptTyped v) := by
  unfold acceptTyped
  split
  · exact .other rfl
  · exact outcome_acceptMember _ _
  · exact .other rfl
  · exact .kept
  · split
    · exact .other rfl
    · exact outcome_acceptTruth _
    · exact outcome_acceptInteger _

theorem acceptTyped_eq_ok (h : c.acceptTyped v = .ok w) : w = v := by
  have houtcome := c.outcome_acceptTyped v
  rw [h] at houtcome
  cases houtcome
  rfl

theorem accept_of_typed (hv : v.Typed) : c.accept v = (c.acceptTyped v).map some := by
  cases v <;> first | exact False.elim hv | rfl

theorem accept_text_eq_ok_iff {s : String} {found : Option Value} :
    c.accept (.text s) = .ok found ↔ ∃ u, found = some u ∧ c.parse s = .ok (some u) := by
  have haccept : c.accept (.text s) = (c.acceptText s).map some := rfl
  rw [haccept, acceptText]
  rcases c.parse s with f | _ | u <;> simp [Except.map, eq_comm]

/-- Where nothing but the length of an integer is in the way of writing the value, the reason why it
is not accepted can be reported. -/
theorem unwritten?_of_accept {r : Refusal} (h : c.accept v = .error r)
    (hv : ∀ f, v.unwritten? = some f → f = .overlong) : r.unwritten? = none := by
  have htyped : ∀ {f}, (c.acceptTyped v).map some = .error f → f.unwritten? = none := by
    intro f hf
    have houtcome := c.outcome_acceptTyped v
    cases ht : c.acceptTyped v with
    | ok w => simp [ht, Except.map] at hf
    | error g =>
      obtain rfl : g = f := by simpa [ht, Except.map] using hf
      rw [ht] at houtcome
      cases houtcome with
      | invalid =>
        rw [Refusal.unwritten?]
        cases hw : v.unwritten? with
        | none => rfl
        | some e => rw [hv e hw]
      | other hnone => exact hnone
  cases v with
  | null => cases h
  | text s =>
    have haccept : (c.acceptText s).map some = .error r := h
    rw [acceptText] at haccept
    split at haccept <;> cases haccept <;> rfl
  | _ => exact htyped h

end PropertyClass

namespace Catalog

variable {cat : Catalog} {p : StandardProperty} {v : Value}

/-- What the field of a property can be given: nothing, a text that the property recognizes, or a
value that it renders. -/
def Takes (cat : Catalog) (p : StandardProperty) : Value → Prop
  | .null => True
  | .text s => ∃ v, (cat.standard p).parse s = .ok (some v)
  | v => ∃ t, cat.render (cat.standard p) v = .ok t

theorem takes_of_typed (hv : v.Typed) :
    cat.Takes p v ↔ ∃ t, cat.render (cat.standard p) v = .ok t := by
  cases v <;> first | exact False.elim hv | rfl

/-- A field accepts as such what its property renders, and keeps it. -/
theorem Sound.accept_typed_iff (h : cat.Sound) (hv : v.Typed) {found : Option Value} :
    (cat.standard p).accept v = .ok found ↔
      found = some v ∧ ∃ t, cat.render (cat.standard p) v = .ok t := by
  have hfollows := h.follows_standard p
  constructor
  · intro haccept
    rw [PropertyClass.accept_of_typed hv] at haccept
    cases htyped : (cat.standard p).acceptTyped v with
    | error f => simp [htyped, Except.map] at haccept
    | ok w =>
      obtain rfl := PropertyClass.acceptTyped_eq_ok htyped
      have hfound : some w = found := by simpa [htyped, Except.map] using haccept
      obtain ⟨t, ht⟩ := hfollows.exists_parse_of_acceptTyped (h.fits_standard p)
        (h.legible_standard p) (h.distinguishable_standard p) htyped
      exact ⟨hfound.symm, t, (h.render_standard_iff p t w).2 ht⟩
  · rintro ⟨rfl, t, ht⟩
    exact PropertyClass.accept_of_parse hfollows ((h.render_standard_iff p t v).1 ht)

theorem Sound.exists_accept_iff (h : cat.Sound) :
    (∃ found, (cat.standard p).accept v = .ok found) ↔ cat.Takes p v := by
  by_cases hv : v.Typed
  · simp only [h.accept_typed_iff hv, takes_of_typed hv, exists_eq_left]
  · cases v with
    | null => exact iff_of_true ⟨none, rfl⟩ trivial
    | text s =>
      simp only [PropertyClass.accept_text_eq_ok_iff, Takes]
      exact ⟨fun ⟨_, u, _, hu⟩ => ⟨u, hu⟩, fun ⟨u, hu⟩ => ⟨some u, u, rfl, hu⟩⟩
    | _ => exact absurd trivial hv

end Catalog

namespace Settings

variable {cat : Catalog} {given : StandardProperty → Value} {data : List (String × Value)}

/-- The fields with issues are those that do not accept what they are given, in the order of their
declaration. -/
theorem map_field_issues (cat : Catalog) (given : StandardProperty → Value) :
    (issues cat given).map Issue.field =
      fieldOrder.filter fun p => !((cat.standard p).accept (given p)).isOk := by
  rw [issues, List.map_filterMap, ← List.filterMap_eq_filter]
  refine List.filterMap_congr fun p _ => ?_
  cases ha : (cat.standard p).accept (given p) <;>
    simp [Option.guard, ha, Except.isOk, Except.toBool]

theorem mem_map_field_issues {p : StandardProperty} :
    p ∈ (issues cat given).map Issue.field ↔
      ¬ ∃ found, (cat.standard p).accept (given p) = .ok found := by
  have hp := p.mem_all
  rw [map_field_issues, fieldOrder_eq_all, List.mem_filter]
  cases (cat.standard p).accept (given p) <;> simp [hp, Except.isOk, Except.toBool]

/-- Settings are built if all fields accept what they are given. -/
theorem exists_ofFields_iff :
    (∃ s, ofFields cat given = .ok s) ↔
      ∀ p, ∃ found, (cat.standard p).accept (given p) = .ok found := by
  constructor
  · rintro ⟨s, hs⟩ p
    exact ⟨_, accept_of_ofFields hs p⟩
  · intro h
    choose found hfound using h
    exact ⟨⟨found⟩, ofFields_eq_ok hfound⟩

theorem ofFields_eq_error (h : ¬ ∃ s, ofFields cat given = .ok s) :
    ofFields cat given = .error (issues cat given) := by
  rw [ofFields] at h ⊢
  split at h
  · exact absurd ⟨_, rfl⟩ h
  · rfl

/-- What the field of a property is given by the entries of its key. -/
def fieldOf (data : List (String × Value)) (p : StandardProperty) : Value :=
  (data.lookup p.key).getD .null

theorem ofMapping_keyed (cat : Catalog) (data : List (String × Value)) :
    ofMapping cat (Value.keyed data) = (ofFields cat (fieldOf data)).mapError .ofIssues := by
  have hnames := mapM_fieldName (fun v : Value => v) data
  have hfields : (fun p => (Value.entry? p.key (Value.keyed data)).getD .null) =
      fieldOf data := by
    funext p
    rw [Value.entry?_keyed, fieldOf]
  rw [ofMapping, hfields, Value.keyed, hnames]
  rfl

theorem ofMapping_keyed_eq_ok {s : Settings} :
    ofMapping cat (Value.keyed data) = .ok s ↔ ofFields cat (fieldOf data) = .ok s := by
  rw [ofMapping_keyed]
  cases ofFields cat (fieldOf data) <;> simp [Except.mapError]

theorem takes_fieldOf {p : StandardProperty} :
    cat.Takes p (fieldOf data p) ↔ ∀ v, data.lookup p.key = some v → cat.Takes p v := by
  rw [fieldOf]
  cases data.lookup p.key with
  | none => simp [Catalog.Takes]
  | some v => simp

/-- Settings are built if every field takes what is listed for it. -/
theorem exists_ofMapping_keyed_iff (h : cat.Sound) :
    (∃ s, ofMapping cat (Value.keyed data) = .ok s) ↔
      ∀ p v, data.lookup (StandardProperty.key p) = some v → cat.Takes p v := by
  simp only [ofMapping_keyed_eq_ok, exists_ofFields_iff, h.exists_accept_iff, takes_fieldOf]

theorem exists_ofMapping_singleton_iff (h : cat.Sound) {p : StandardProperty} {v : Value} :
    (∃ s, ofMapping cat (Value.keyed [(p.key, v)]) = .ok s) ↔ cat.Takes p v := by
  rw [exists_ofMapping_keyed_iff h]
  constructor
  · intro hall
    exact hall p v List.lookup_cons_self
  · intro hp q w hq
    by_cases hqp : q = p
    · subst hqp
      rw [List.lookup_cons_self, Option.some.injEq] at hq
      exact hq ▸ hp
    · have hne : (q.key == p.key) = false :=
        beq_eq_false_iff_ne.2 fun he => hqp (StandardProperty.key_injective he)
      simp [List.lookup_cons, hne] at hq

/-- Otherwise the fields that do not take it are reported, unless a member is in the way of writing
one of the values. -/
theorem ofMapping_keyed_eq_error (h : cat.Sound)
    (hwritten : ∀ p v, data.lookup (StandardProperty.key p) = some v → ¬ cat.Takes p v →
      ∀ f, v.unwritten? = some f → f = .overlong)
    (hnot : ¬ ∃ s, ofMapping cat (Value.keyed data) = .ok s) :
    ∃ issues : List Issue, ofMapping cat (Value.keyed data) = .error (.invalidFields issues) ∧
      (issues.map Issue.field).Sublist fieldOrder ∧
      ∀ p, p ∈ issues.map Issue.field ↔ ∃ v, data.lookup p.key = some v ∧ ¬ cat.Takes p v := by
  have hmem : ∀ p, p ∈ (issues cat (fieldOf data)).map Issue.field ↔
      ∃ v, data.lookup p.key = some v ∧ ¬ cat.Takes p v := by
    intro p
    rw [mem_map_field_issues, h.exists_accept_iff, takes_fieldOf]
    simp only [not_forall, exists_prop]
  have hshown : ∀ i ∈ issues cat (fieldOf data), i.refusal.unwritten? = none := by
    intro i hi
    obtain ⟨v, hv, hoffends⟩ := (hmem i.field).1 (List.mem_map_of_mem hi)
    have haccept : (cat.standard i.field).accept v = .error i.refusal := by
      obtain ⟨p, -, hp⟩ := List.mem_filterMap.1 hi
      split at hp
      · cases hp
      · rename_i r hr
        cases hp
        rw [← hr, fieldOf, hv, Option.getD_some]
    exact PropertyClass.unwritten?_of_accept haccept (hwritten i.field v hv hoffends)
  simp only [ofMapping_keyed_eq_ok] at hnot
  refine ⟨issues cat (fieldOf data), ?_, ?_, hmem⟩
  · rw [ofMapping_keyed, ofFields_eq_error hnot, Except.mapError,
      Failure.ofIssues_of_written hshown]
  · rw [map_field_issues]
    exact List.filter_sublist

/-- Settings are built from what the properties render, and from the texts that they recognize. -/
theorem ofMapping_takes (h : cat.Reachable) :
    (∀ (p : StandardProperty) (v : Value), v.Typed →
      ((∃ s, ofMapping cat (Value.keyed [(p.key, v)]) = .ok s) ↔
        ∃ t, cat.render (cat.standard p) v = .ok t) ∧
      ((∃ t, cat.render (cat.standard p) v = .ok t) ↔
        ∃ t, (cat.standard p).parse t = .ok (some v)) ∧
      ∀ s, ofMapping cat (Value.keyed [(p.key, v)]) = .ok s → s.value p = some v) ∧
    ∀ data : List (String × Value),
      ((∃ s, ofMapping cat (Value.keyed data) = .ok s) ↔
        ∀ p v, data.lookup (StandardProperty.key p) = some v → cat.Takes p v) ∧
      ((∀ p v, data.lookup (StandardProperty.key p) = some v → ¬ cat.Takes p v →
          ∀ f, v.unwritten? = some f → f = .overlong) →
        (¬ ∃ s, ofMapping cat (Value.keyed data) = .ok s) →
        ∃ issues : List Issue,
          ofMapping cat (Value.keyed data) = .error (.invalidFields issues) ∧
          (issues.map Issue.field).Sublist fieldOrder ∧
          ∀ p, p ∈ issues.map Issue.field ↔
            ∃ v, data.lookup p.key = some v ∧ ¬ cat.Takes p v) ∧
      ∀ other : List (String × Value),
        (∀ p, other.lookup (StandardProperty.key p) = data.lookup p.key) →
        ofMapping cat (Value.keyed other) = ofMapping cat (Value.keyed data) := by
  refine ⟨fun p v hv => ⟨?_, ?_, fun s hs => ?_⟩,
    fun data => ⟨exists_ofMapping_keyed_iff h.sound, ofMapping_keyed_eq_error h.sound, ?_⟩⟩
  · rw [exists_ofMapping_singleton_iff h.sound, Catalog.takes_of_typed hv]
  · exact exists_congr fun t => h.sound.render_standard_iff p t v
  · have haccept := accept_of_ofFields (ofMapping_keyed_eq_ok.1 hs) p
    rw [fieldOf, List.lookup_cons_self, Option.getD_some] at haccept
    exact ((h.sound.accept_typed_iff hv).1 haccept).1
  · intro other hother
    have hfields : fieldOf other = fieldOf data := by
      funext p
      rw [fieldOf, fieldOf, hother]
    rw [ofMapping_keyed, ofMapping_keyed, hfields]

/-- Values of other kinds than those of the fields, one that is under no field, one that leaves its
field unset, and a text. -/
def offendingData : List (String × Value) :=
  [("max_line_length", .bool true), ("root", .bytes []), ("charset", .null),
    ("tab_width", .int (-1)), ("end_of_line", .text "cr")]

/-- Two values are reported in the order of the fields, whatever their order is in the data. -/
theorem ofMapping_takes_twice :
    Catalog.twice.Reachable ∧
      (∃ s, ofMapping Catalog.twice (Value.keyed [("max_line_length", .explicitNone)]) = .ok s ∧
        s.value .maxLineLength = some .explicitNone) ∧
      ∃ issues : List Issue,
        ofMapping Catalog.twice (Value.keyed offendingData) = .error (.invalidFields issues) ∧
        ofMapping Catalog.twice (Value.keyed offendingData.reverse) =
          .error (.invalidFields issues) ∧
        issues.map Issue.field = [.tabWidth, .maxLineLength] := by
  obtain ⟨htyped, hkeyed⟩ := ofMapping_takes Catalog.reachable_twice
  obtain ⟨hbuilds, -, hkept⟩ := htyped .maxLineLength .explicitNone trivial
  obtain ⟨s, hs⟩ := hbuilds.2 ⟨"off", rfl⟩
  obtain ⟨-, hreports, hsame⟩ := hkeyed offendingData
  have hfailed : ofMapping Catalog.twice (Value.keyed offendingData) = .error (.invalidFields
      [⟨.tabWidth, .outOfRange (-1)⟩, ⟨.maxLineLength, .invalid (.bool true)⟩]) := rfl
  have hwritten : ∀ e ∈ offendingData, e.2.unwritten? = none := by decide +kernel
  obtain ⟨issues, hissues, -, -⟩ := hreports (fun p v hv _ f hf => by
    rw [hwritten _ (Entries.mem_of_lookup hv)] at hf
    cases hf) (by simp [hfailed])
  have hreversed := hsame offendingData.reverse fun p => by cases p <;> rfl
  refine ⟨Catalog.reachable_twice, ⟨s, hs, hkept s hs⟩, issues, hissues,
    hreversed.trans hissues, ?_⟩
  obtain rfl := Failure.invalidFields.inj (Except.error.inj (hfailed.symm.trans hissues))
  rfl

/-- A member that cannot be written is no value of a field, and is not reported either. -/
theorem not_ofMapping_takes_classless :
    Catalog.classless.Reachable ∧ ∃ c m, Catalog.classless.class? (.custom 0) = some c ∧
      c.member? "ON" = some m ∧
      ¬ Catalog.classless.Takes .charset (.member m) ∧
      ¬ ∃ issues : List Issue,
        ofMapping Catalog.classless (Value.keyed [("charset", .member m)]) =
          .error (.invalidFields issues) := by
  have hreachable : Catalog.classless.Reachable := Catalog.reachable_made _
  obtain ⟨c, m, hc, hm, hfailed⟩ : ∃ c m, Catalog.classless.class? (.custom 0) = some c ∧
      c.member? "ON" = some m ∧
      ofMapping Catalog.classless (Value.keyed [("charset", .member m)]) =
        .error .unclassified := ⟨_, _, rfl, rfl, rfl⟩
  refine ⟨hreachable, c, m, hc, hm, ?_, ?_⟩
  · rw [← exists_ofMapping_singleton_iff hreachable.sound]
    simp [StandardProperty.key, hfailed]
  · simp [hfailed]

end Settings

end EditorConfig

import EditorConfig.Catalog.Rendering
import EditorConfig.Proofs.Reading

/-! Rendering and reading are inverse. A settled class has all its attributes from one rule, so what
it renders with belongs to what it reads with. Members are told apart by the texts that they show,
which are different unless a text of the class stands in for all of them. -/

namespace EditorConfig

theorem matching?_eq_none {s : String} {members : List Member}
    (h : matching? s members = .ok none) : ∀ m ∈ members, m.givenText ≠ .ok s := by
  induction members with
  | nil => simp
  | cons n rest ih =>
    cases hn : n.givenText with
    | error f => simp [matching?, hn, bind, Except.bind] at h
    | ok t =>
      by_cases ht : t = s
      · simp [matching?, hn, ht, bind, Except.bind, pure, Except.pure] at h
      · have hr : matching? s rest = .ok none := by
          simpa [matching?, hn, ht, bind, Except.bind] using h
        refine List.forall_mem_cons.2 ⟨?_, ih hr⟩
        rw [hn]
        simpa using ht

namespace PropertyClass

/-- Members with the same text are the same once aliases are left out. -/
theorem eq_of_text_eq {members : List Member} {m n : Member} (hm : m ∈ distinct members)
    (hn : n ∈ distinct members) (h : m.text = n.text) : m = n := by
  induction members with
  | nil => cases hm
  | cons e rest ih =>
    have hrest : ∀ x ∈ (distinct rest).filter (fun n => n.text != e.text),
        x ∈ distinct rest ∧ x.text ≠ e.text := by simp
    rcases List.mem_cons.1 hm with rfl | hm
    · rcases List.mem_cons.1 hn with rfl | hn
      · rfl
      · exact absurd h.symm (hrest n hn).2
    · rcases List.mem_cons.1 hn with rfl | hn
      · exact absurd h (hrest m hm).2
      · exact ih (hrest m hm).1 (hrest n hn).1

/-- No text stands in for the different texts of several members. -/
def Distinguishable (c : PropertyClass) : Prop :=
  c.members.length ≤ 1 ∨ ∀ s, c.traits.lookup textTrait ≠ some (.text s)

theorem eq_of_givenText {c : PropertyClass} {ref : ClassRef} {keys : List String}
    (h : c.Fits ref keys) (hd : c.Distinguishable) {m n : Member} {s : String} (hm : m ∈ c.members)
    (hn : n ∈ c.members) (hms : m.givenText = .ok s) (hns : n.givenText = .ok s) : m = n := by
  rcases hd with hlen | hbare
  · obtain ⟨i, hi, rfl⟩ := List.mem_iff_getElem.1 hm
    obtain ⟨j, hj, rfl⟩ := List.mem_iff_getElem.1 hn
    have hij : i = j := by omega
    subst hij
    rfl
  · rw [givenText_eq, (h.member hm).2.2] at hms
    rw [givenText_eq, (h.member hn).2.2] at hns
    cases ht : c.traits.lookup textTrait with
    | none =>
      rw [ht] at hms hns
      exact eq_of_text_eq hm hn ((Except.ok.inj hms).trans (Except.ok.inj hns).symm)
    | some t =>
      cases t with
      | text s => exact absurd ht (hbare s)
      | slot => rw [ht] at hms; cases hms

/-- All members show a text if one of them does. -/
theorem exists_givenText_of_mem {c : PropertyClass} {ref : ClassRef} {keys : List String}
    (h : c.Fits ref keys) {m : Member} {s : String} (hm : m ∈ c.members)
    (hms : m.givenText = .ok s) : ∀ n ∈ c.members, ∃ t, n.givenText = .ok t := by
  have hl : c.traits.lookup textTrait ≠ some .slot := by
    intro hslot
    rw [givenText_eq, (h.member hm).2.2, hslot] at hms
    cases hms
  exact h.exists_givenText (.inr hl)

/-- The member that is read from a text is the one that shows it. -/
theorem matching?_eq_some_iff {c : PropertyClass} {ref : ClassRef} {keys : List String}
    (h : c.Fits ref keys) (hd : c.Distinguishable) {m : Member} {s : String} :
    matching? s c.members = .ok (some m) ↔ m ∈ c.members ∧ m.givenText = .ok s := by
  -- One member shows a text, so all of them do, and the search goes on until a text is the same.
  refine ⟨matching?_eq_some, fun ⟨hm, hms⟩ => ?_⟩
  obtain ⟨found, hf⟩ := exists_matching? s (exists_givenText_of_mem h hm hms)
  cases found with
  | none => exact absurd hms (matching?_eq_none hf m hm)
  | some n =>
    obtain ⟨hn, hns⟩ := matching?_eq_some hf
    rw [hf, eq_of_givenText h hd hn hm hns hms]

theorem memberOf?_eq_some_iff {c : PropertyClass} {v : Value} {m : Member} :
    c.memberOf? v = some m ↔ v = .member m ∧ m ∈ c.members := by
  cases v with
  | member n =>
    by_cases hn : n ∈ c.members
    · simp only [memberOf?, if_pos hn, Option.some.injEq, Value.member.injEq]
      exact ⟨fun h => ⟨h, h ▸ hn⟩, And.left⟩
    · simp only [memberOf?, if_neg hn, reduceCtorEq, Value.member.injEq, false_iff]
      rintro ⟨rfl, hm⟩
      exact hn hm
  | _ => simp [memberOf?]

theorem renderMember_eq_ok_iff {c : PropertyClass} {v : Value} {s : String} :
    c.renderMember v = .ok s ↔ ∃ m ∈ c.members, v = .member m ∧ m.givenText = .ok s := by
  rw [renderMember]
  cases hm : c.memberOf? v with
  | none =>
    simp only [reduceCtorEq, false_iff]
    rintro ⟨m, hmem, hv, -⟩
    rw [memberOf?_eq_some_iff.2 ⟨hv, hmem⟩] at hm
    cases hm
  | some m =>
    obtain ⟨rfl, hmem⟩ := memberOf?_eq_some_iff.1 hm
    constructor
    · exact fun h => ⟨m, hmem, rfl, h⟩
    · rintro ⟨n, -, he, hs⟩
      rw [Value.member.inj he]
      exact hs

variable {fill : String → Value → Except Failure String}

theorem render_of_enumeration {c : PropertyClass} (h : c.kind = some .enumeration) (v : Value) :
    c.render fill v = c.renderMember v := by
  simp [render, shownKind, h, bind, Except.bind]

theorem render_of_primitive {c : PropertyClass} {p : Primitive}
    (h : c.kind = some .scalar ∨ c.kind = some .optional) (hp : c.primitive = some p) {v : Value}
    (hv : v ≠ .explicitNone) : c.render fill v = p.render v := by
  rcases h with h | h <;> cases v <;>
    simp_all [render, shownKind, renderPrimitive, bind, Except.bind]

theorem render_explicitNone_of_scalar {c : PropertyClass} (h : c.kind = some .scalar) :
    c.render fill .explicitNone = .error (.noExplicitNone c.name) := by
  simp [render, shownKind, h, distinguish, bind, Except.bind]

theorem render_explicitNone_of_optional {c : PropertyClass} {sentinel : String}
    (h : c.kind = some .optional) (hs : c.sentinel = some sentinel) :
    c.render fill .explicitNone = .ok sentinel := by
  simp [render, shownKind, h, shownSentinel, hs, bind, Except.bind]

theorem render_of_scalar {c : PropertyClass} {p : Primitive} (h : c.kind = some .scalar)
    (hp : c.primitive = some p) {v : Value} {s : String} :
    c.render fill v = .ok s ↔ p.render v = .ok s := by
  by_cases hv : v = .explicitNone
  · subst hv
    rw [render_explicitNone_of_scalar h]
    cases p <;> simp [Primitive.render]
  · rw [render_of_primitive (.inl h) hp hv]

theorem render_of_optional {c : PropertyClass} {p : Primitive} {sentinel : String}
    (h : c.kind = some .optional) (hp : c.primitive = some p) (hs : c.sentinel = some sentinel)
    {v : Value} {s : String} :
    c.render fill v = .ok s ↔ (v = .explicitNone ∧ s = sentinel) ∨ p.render v = .ok s := by
  by_cases hv : v = .explicitNone
  · subst hv
    rw [render_explicitNone_of_optional h hs]
    cases p <;> simp [Primitive.render, eq_comm]
  · rw [render_of_primitive (.inr h) hp hv]
    simp [hv]

/-- A primitive reads no sentinel that it can stand next to. -/
theorem parse_of_optional {c : PropertyClass} {p : Primitive} {sentinel : String}
    (h : c.rule = some (.optional p sentinel)) (ho : c.objection (.optional p sentinel) = none)
    {s : String} {v : Value} :
    c.parse s = .ok (some v) ↔ (v = .explicitNone ∧ s = sentinel) ∨ p.parse? s = some v := by
  have hnone : p.parse? sentinel = none := by simpa [objection] using ho
  have hparse : c.parse s =
      .ok (if s = sentinel then some .explicitNone else p.parse? s) := parse_of_rule h s
  rw [hparse, Except.ok.injEq]
  by_cases hs : s = sentinel
  · subst hs
    simp [hnone, eq_comm]
  · simp [hs]

/-- What is read from a text is what the text stands for, and the other way round. -/
theorem Follows.render_eq_ok_iff {c : PropertyClass} {r : Rule} {ref : ClassRef}
    {keys : List String} (hc : c.Follows r) (hfits : c.Fits ref keys)
    (hd : c.kind = some .enumeration → c.Distinguishable) (s : String) (v : Value) :
    c.render fill v = .ok s ↔ c.parse s = .ok (some v) := by
  have hkind := hc.kind
  cases r with
  | enumeration =>
    have hparse : c.parse s = (matching? s c.members).map (Option.map Value.member) :=
      parse_of_rule hc.rule s
    rw [render_of_enumeration hkind, renderMember_eq_ok_iff, hparse]
    constructor
    · rintro ⟨m, hm, rfl, hms⟩
      rw [(matching?_eq_some_iff hfits (hd hkind)).2 ⟨hm, hms⟩]
      rfl
    · intro h
      cases hf : matching? s c.members with
      | error f => simp [hf, Except.map] at h
      | ok found =>
        rw [hf] at h
        obtain ⟨m, rfl, rfl⟩ := Option.map_eq_some_iff.1 (Except.ok.inj h)
        obtain ⟨hm, hms⟩ := matching?_eq_some hf
        exact ⟨m, hm, rfl, hms⟩
  | scalar p =>
    have hparse : c.parse s = .ok (p.parse? s) := parse_of_rule hc.rule s
    rw [render_of_scalar hkind (hc.primitive p rfl), Primitive.render_eq_ok_iff, hparse,
      Except.ok.injEq]
  | optional p sentinel =>
    rw [render_of_optional hkind (hc.primitive p rfl) (hc.sentinel sentinel rfl),
      Primitive.render_eq_ok_iff, parse_of_optional hc.rule hc.objection]

end PropertyClass

namespace Catalog

/-- A declaration succeeds if the one of the class does. -/
theorem exists_declare_of_ok {cat : Catalog} {ref : ClassRef} {r : Rule} {key : String}
    (h : (cat.declare ref r key).2 = .ok ()) :
    ∃ c d, cat.class? ref = some c ∧ c.declare r key (cat.keyObjection key) = (d, .ok ()) ∧
      (cat.declare ref r key).1.class? ref = some d := by
  cases hc : cat.class? ref with
  | none => simp [declare, hc] at h
  | some c =>
    have hself := class?_declare_self hc r key
    rcases hd : c.declare r key (cat.keyObjection key) with ⟨d, f | ⟨⟩⟩
    · simp [declare, hc, hd] at h
    · rw [hd] at hself
      exact ⟨c, d, rfl, hd, hself⟩

/-- A change that does not get past the objections to a rule of the class leaves the class alone. -/
theorem class?_apply_of_not_installs {cat : Catalog} {ref : ClassRef} {c : PropertyClass}
    {change : Change} (h : ¬ cat.Installs ref change) (hc : cat.class? ref = some c) :
    (cat.apply change).1.class? ref = some c := by
  cases change with
  | newClass name literals =>
    rw [apply, newClass]
    split
    · exact hc
    · have hne : ref ≠ .custom cat.custom.length := by
        rintro rfl
        rw [class?_next] at hc
        cases hc
      rw [class?_made_of_ne cat _ hne]
      exact hc
  | declare target r key =>
    rw [apply]
    by_cases ht : target = ref
    · subst ht
      -- Nothing is assigned before the objection, so the class is put back as it was.
      obtain ⟨f, hf⟩ : ∃ f, c.objection r = some f := by
        refine Option.ne_none_iff_exists'.1 fun hnone => ?_
        exact h ⟨rfl, c, hc, hnone⟩
      have hdeclare : c.declare r key (cat.keyObjection key) = (c, .error f) := by
        unfold PropertyClass.declare
        rw [hf]
      rw [class?_declare_self hc, hdeclare]
    · rw [class?_declare_of_ne (Ne.symm ht)]
      exact hc

/-- A settled class follows a rule. -/
theorem Settled.exists_follows {cat : Catalog} {ref : ClassRef} (h : cat.Settled ref) :
    ∃ c r, cat.class? ref = some c ∧ c.Follows r := by
  induction h with
  | standard p => exact ⟨_, p.rule, rfl, sound_initial.follows_standard p⟩
  | @declared cat i r key _ hok =>
    obtain ⟨c, d, -, hd, hnext⟩ := exists_declare_of_ok hok
    exact ⟨d, r, hnext, PropertyClass.follows_of_declare hd⟩
  | kept _ hcustom hnot ih =>
    obtain ⟨c, r, hc, hr⟩ := ih
    exact ⟨c, r, class?_apply_of_not_installs hnot hc, hr⟩

/-- Formatting and parsing of a settled class are inverse. -/
theorem render_eq_ok_iff_parse {cat : Catalog} {ref : ClassRef} {c : PropertyClass}
    (h : cat.Settled ref) (hc : cat.class? ref = some c)
    (hd : c.kind = some .enumeration → c.Distinguishable) :
    (∀ s v, cat.render c v = .ok s ↔ c.parse s = .ok (some v)) ∧
      (∀ s t v, c.parse s = .ok (some v) → c.parse t = .ok (some v) → s = t) ∧
      (∀ v, (¬ ∃ s, c.parse s = .ok (some v)) → ∃ f, cat.render c v = .error f) ∧
      ∃ f, cat.render c .null = .error f := by
  obtain ⟨d, r, hclass, hr⟩ := h.exists_follows
  obtain rfl : d = c := Option.some.inj (hclass.symm.trans hc)
  have hfits := h.reachable.sound.fits ref d hc
  have hinverse : ∀ s v, cat.render d v = .ok s ↔ d.parse s = .ok (some v) :=
    hr.render_eq_ok_iff hfits hd
  have hfails : ∀ v, (¬ ∃ s, d.parse s = .ok (some v)) → ∃ f, cat.render d v = .error f := by
    intro v hv
    cases hs : cat.render d v with
    | error f => exact ⟨f, rfl⟩
    | ok s => exact absurd ⟨s, (hinverse s v).1 hs⟩ hv
  refine ⟨hinverse, fun s t v hs ht => ?_, hfails, hfails .null ?_⟩
  · have heq := ((hinverse s v).2 hs).symm.trans ((hinverse t v).2 ht)
    exact Except.ok.inj heq
  · rintro ⟨s, hs⟩
    exact d.parse_ne_null s hs

/-- The class that was declared twice reads the texts of its members, and renders no others. -/
theorem render_eq_ok_iff_parse_twice :
    ∃ c, twice.Settled (.custom 0) ∧ twice.class? (.custom 0) = some c ∧
      c.kind = some .enumeration ∧ c.Distinguishable ∧
      (∀ s v, twice.render c v = .ok s ↔ c.parse s = .ok (some v)) ∧
      (∃ v, c.parse "off" = .ok (some v) ∧ twice.render c v = .ok "off") ∧
      ∃ f, twice.render c .null = .error f := by
  obtain ⟨c, hc, hkind, htraits, v, hv⟩ : ∃ c, twice.class? (.custom 0) = some c ∧
      c.kind = some .enumeration ∧ c.traits = [] ∧ ∃ v, c.parse "off" = .ok (some v) :=
    ⟨_, rfl, rfl, rfl, _, rfl⟩
  have hd : c.Distinguishable := .inr fun s => by simp [htraits]
  obtain ⟨hinverse, -, -, hnull⟩ := render_eq_ok_iff_parse settled_twice hc fun _ => hd
  exact ⟨c, settled_twice, hc, hkind, hd, hinverse, ⟨v, hv, (hinverse _ _).2 hv⟩, hnull⟩

/-- A text of the enumeration stands in for the texts of its members. -/
def shadowed : Catalog :=
  enumerated [(ignoreDirective, textTrait), (textTrait, "same"), (ignoreDirective, ""),
    ("ON", "on"), ("OFF", "off")]

/-- The last of two members is rendered by a text that the first one is read from. -/
theorem not_render_eq_ok_iff_parse_shadowed :
    shadowed.Settled (.custom 0) ∧ ∃ c m, shadowed.class? (.custom 0) = some c ∧
      c.member? "OFF" = some m ∧
      ¬ (shadowed.render c (.member m) = .ok "same" ↔
        c.parse "same" = .ok (some (.member m))) := by
  have hsettled : shadowed.Settled (.custom 0) := .declared (reachable_made _) rfl
  obtain ⟨c, m, n, hc, hm, hrender, hparse, hne⟩ : ∃ c m n, shadowed.class? (.custom 0) = some c ∧
      c.member? "OFF" = some m ∧ shadowed.render c (.member m) = .ok "same" ∧
      c.parse "same" = .ok (some (.member n)) ∧ n.name ≠ m.name :=
    ⟨_, _, _, rfl, rfl, rfl, rfl, by decide⟩
  refine ⟨hsettled, c, m, hc, hm, fun h => hne ?_⟩
  have heq := hparse.symm.trans (h.1 hrender)
  cases heq
  rfl

end Catalog

end EditorConfig

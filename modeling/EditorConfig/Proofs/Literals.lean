import EditorConfig.Proofs.Spelling

/-! The texts of standard properties, each with the value that it stands for: the digits of a number
in range, a truth value, a sentinel, or the text of a member. Standard classes read these texts and
no others, in every catalog. -/

namespace EditorConfig

namespace StandardProperty

/-- The property has the text for the value. -/
inductive Spells (p : StandardProperty) : String → Value → Prop
  | number {n : Nat} :
      p.rule.primitive? = some .uint → n ≤ Uint.max → p.Spells (toString n) (.int n)
  | truth (b : Bool) : p.rule.primitive? = some .bool → p.Spells (Truth.text b) (.bool b)
  | sentinel {s : String} : p.rule.sentinel? = some s → p.Spells s .explicitNone
  | member {m : Member} :
      p.rule = .enumeration → m ∈ p.propertyClass.members → p.Spells m.text (.member m)

variable {p : StandardProperty} {q : Primitive} {t : String} {v : Value}

theorem spells_of_parse? (hq : p.rule.primitive? = some q) (h : q.parse? t = some v) :
    p.Spells t v := by
  cases q with
  | uint =>
    obtain ⟨n, rfl, hn, rfl⟩ := Primitive.parse?_uint_eq_some_iff.1 h
    exact .number hq hn
  | bool =>
    obtain ⟨b, rfl, rfl⟩ := Primitive.parse?_bool_eq_some_iff.1 h
    exact .truth b hq

/-- Next to a primitive there is at most a sentinel. -/
theorem spells_iff_of_primitive (hq : p.rule.primitive? = some q) :
    p.Spells t v ↔ (v = .explicitNone ∧ p.rule.sentinel? = some t) ∨ q.parse? t = some v := by
  constructor
  · intro h
    cases h with
    | number huint hn =>
      obtain rfl := Option.some.inj (hq.symm.trans huint)
      exact .inr (Primitive.parse?_uint_eq_some_iff.2 ⟨_, rfl, hn, rfl⟩)
    | truth b hbool =>
      obtain rfl := Option.some.inj (hq.symm.trans hbool)
      exact .inr (Primitive.parse?_bool_eq_some_iff.2 ⟨b, rfl, rfl⟩)
    | sentinel hs => exact .inl ⟨rfl, hs⟩
    | member hr => simp [hr, Rule.primitive?] at hq
  · rintro (⟨rfl, hs⟩ | h)
    · exact .sentinel hs
    · exact spells_of_parse? hq h

theorem spells_iff_of_enumeration (hr : p.rule = .enumeration) :
    p.Spells t v ↔ ∃ m ∈ p.propertyClass.members, v = .member m ∧ t = m.text := by
  constructor
  · intro h
    cases h with
    | number huint => simp [hr, Rule.primitive?] at huint
    | truth b hbool => simp [hr, Rule.primitive?] at hbool
    | sentinel hs => simp [hr, Rule.sentinel?] at hs
    | member _ hm => exact ⟨_, hm, rfl, rfl⟩
  · rintro ⟨m, hm, rfl, rfl⟩
    exact .member hr hm

/-- The texts of the property that are no numbers. -/
def words (p : StandardProperty) : List String :=
  [Truth.text true, Truth.text false] ++ p.rule.sentinel?.toList ++
    p.propertyClass.members.map Member.text

/-- A text that is no number is one of a few words. -/
theorem Spells.digits_or_word (h : p.Spells t v) :
    (t.toList ≠ [] ∧ ∀ c ∈ t.toList, c.isDigit) ∨ t ∈ p.words := by
  cases h with
  | @number n =>
    have hrepr : (toString n).toList = Nat.toDigits 10 n := Nat.toList_repr
    rw [hrepr]
    exact .inl ⟨Nat.toDigits_ne_nil,
      fun c hc => Nat.isDigit_of_mem_toDigits (by decide) (by decide) hc⟩
  | truth b => cases b <;> simp [words]
  | sentinel hs => simp [words, hs]
  | member _ hm => simp [words, List.mem_map_of_mem hm]

end StandardProperty

namespace Catalog

variable {cat : Catalog} {p : StandardProperty} {t : String} {v : Value}

/-- A member of a standard class shows its own text. -/
theorem Sound.givenText_standard (h : cat.Sound) {m : Member} (hm : m ∈ (cat.standard p).members) :
    m.givenText = .ok m.text := by
  rw [PropertyClass.givenText_eq, ((h.fits_standard p).member hm).2.2, h.traits_standard p]
  rfl

theorem Sound.parse_standard_iff (h : cat.Sound) :
    (cat.standard p).parse t = .ok (some v) ↔ p.Spells t v := by
  have hfollows := h.follows_standard p
  have hrule := hfollows.rule
  have hobjection := hfollows.objection
  cases hr : p.rule with
  | enumeration =>
    rw [← h.render_standard_iff, Catalog.render,
      PropertyClass.render_of_enumeration (hfollows.kind.trans (by rw [hr]; rfl)),
      PropertyClass.renderMember_eq_ok_iff, StandardProperty.spells_iff_of_enumeration hr]
    rw [← h.standard]
    refine exists_congr fun m => and_congr_right fun hm => and_congr_right fun _ => ?_
    rw [h.givenText_standard hm, Except.ok.injEq, eq_comm]
  | scalar q =>
    rw [hr] at hrule
    rw [PropertyClass.parse_of_rule hrule, Rule.parse, Except.ok.injEq,
      StandardProperty.spells_iff_of_primitive (q := q) (by rw [hr, Rule.primitive?])]
    simp [hr, Rule.sentinel?]
  | optional q sentinel =>
    rw [hr] at hrule hobjection
    rw [PropertyClass.parse_of_optional hrule hobjection,
      StandardProperty.spells_iff_of_primitive (q := q) (by rw [hr, Rule.primitive?])]
    simp [hr, Rule.sentinel?, eq_comm]

end Catalog

/-- What settings are spelled by are texts of the properties. -/
theorem Settings.SpelledBy.exists_spells {s : Settings} {cat : Catalog}
    {text : StandardProperty → Option String} (hs : s.SpelledBy cat text) (h : cat.Sound) :
    ∀ e ∈ StandardProperty.listed text,
      ∃ (p : StandardProperty) (v : Value), p.key = e.1 ∧ p.Spells e.2 v := by
  rintro ⟨key, t⟩ he
  obtain ⟨p, rfl, hp⟩ := StandardProperty.mem_listed.1 he
  obtain ⟨v, -, hparse⟩ := hs.read p t hp
  exact ⟨p, v, rfl, h.parse_standard_iff.1 hparse⟩

end EditorConfig

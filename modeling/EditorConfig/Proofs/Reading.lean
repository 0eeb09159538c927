import EditorConfig.Settings.Basic
import EditorConfig.Proofs.Canonical
import EditorConfig.Proofs.Registered

/-! Reading a text by the rule of a class. The members of a class share its traits, so either all of
them have a text to compare with or none has; in the first case every text is read without a
failure. What a text stands for is then a value that a field of the settings accepts. -/

namespace EditorConfig

/-- What a member shows as its text is found under this name. -/
def textTrait : String := "value"

theorem matching?_eq_some {s : String} {members : List Member} {m : Member}
    (h : matching? s members = .ok (some m)) : m ∈ members ∧ m.givenText = .ok s := by
  induction members with
  | nil => cases h
  | cons n rest ih =>
    cases hn : n.givenText with
    | error f => simp [matching?, hn, bind, Except.bind] at h
    | ok t =>
      by_cases ht : t = s
      · obtain rfl : n = m := by
          simpa [matching?, hn, ht, bind, Except.bind, pure, Except.pure] using h
        exact ⟨List.mem_cons_self, ht ▸ hn⟩
      · have hr : matching? s rest = .ok (some m) := by
          simpa [matching?, hn, ht, bind, Except.bind] using h
        exact ⟨List.mem_cons_of_mem _ (ih hr).1, (ih hr).2⟩

theorem exists_matching? (s : String) {members : List Member}
    (h : ∀ m ∈ members, ∃ t, m.givenText = .ok t) : ∃ found, matching? s members = .ok found := by
  induction members with
  | nil => exact ⟨none, rfl⟩
  | cons m rest ih =>
    obtain ⟨t, ht⟩ := h m List.mem_cons_self
    obtain ⟨found, hf⟩ := ih fun n hn => h n (List.mem_cons_of_mem _ hn)
    by_cases hs : t = s
    · exact ⟨some m, by simp [matching?, ht, hs, bind, Except.bind, pure, Except.pure]⟩
    · exact ⟨found, by simp [matching?, ht, hs, hf, bind, Except.bind]⟩

/-- A rule reads every text if the members that it compares with show theirs. -/
theorem Rule.exists_parse {members : List Member} {r : Rule}
    (h : r = .enumeration → ∀ m ∈ members, ∃ t, m.givenText = .ok t) (s : String) :
    ∃ found, r.parse members s = .ok found := by
  cases r with
  | enumeration =>
    obtain ⟨found, hf⟩ := exists_matching? s (h rfl)
    refine ⟨found.map .member, ?_⟩
    rw [parse, hf]
    rfl
  | scalar p => exact ⟨_, rfl⟩
  | optional p sentinel => exact ⟨_, rfl⟩

theorem Primitive.int_or_bool_of_parse? {p : Primitive} {s : String} {v : Value}
    (h : p.parse? s = some v) : (∃ n, v = .int n) ∨ ∃ b, v = .bool b := by
  cases p with
  | uint =>
    obtain ⟨n, hn, -⟩ := parse?_uint_eq_some_iff.1 h
    exact .inl ⟨n, hn⟩
  | bool =>
    obtain ⟨b, hb, -⟩ := parse?_bool_eq_some_iff.1 h
    exact .inr ⟨b, hb⟩

/-- No text stands for the null value. -/
theorem Primitive.parse?_ne_null (p : Primitive) (s : String) : p.parse? s ≠ some .null := by
  intro h
  simpa using int_or_bool_of_parse? h

/-- Only a sentinel stands for the explicit absence of a value. -/
theorem Primitive.parse?_ne_explicitNone (p : Primitive) (s : String) :
    p.parse? s ≠ some .explicitNone := by
  intro h
  simpa using int_or_bool_of_parse? h

namespace PropertyClass

variable {c : PropertyClass} {ref : ClassRef} {keys : List String} {r : Rule}

theorem parse_of_rule (h : c.rule = some r) (s : String) : c.parse s = r.parse c.members s := by
  rw [parse, h]
  rfl

theorem read_of_rule (h : c.rule = some r) (v : Value) : c.read v = r.read c.members v := by
  rw [read, h]
  rfl

/-- The members of the class, if it has any, have texts, and no slot in their place. -/
def HasTexts (c : PropertyClass) : Prop :=
  c.members = [] ∨ c.traits.lookup textTrait ≠ some .slot

instance (c : PropertyClass) : Decidable c.HasTexts := inferInstanceAs (Decidable (_ ∨ _))

/-- Members that the class reads have texts. -/
def Legible (c : PropertyClass) : Prop := c.rule = some .enumeration → c.HasTexts

instance (c : PropertyClass) : Decidable c.Legible := inferInstanceAs (Decidable (_ → _))

/-- Members that the class lists and renders have texts. -/
def Writable (c : PropertyClass) : Prop := c.kind = some .enumeration → c.HasTexts

instance (c : PropertyClass) : Decidable c.Writable := inferInstanceAs (Decidable (_ → _))

theorem mem_of_mem_distinct {members : List Member} {m : Member} (h : m ∈ distinct members) :
    m ∈ members := by
  induction members with
  | nil => cases h
  | cons n rest ih =>
    rcases List.mem_cons.1 h with rfl | h
    · exact List.mem_cons_self
    · exact List.mem_cons_of_mem _ (ih (List.mem_filter.1 h).1)

/-- A member belongs to its class, and has what the class has besides members. -/
theorem Fits.member (h : c.Fits ref keys) {m : Member} (hm : m ∈ c.members) :
    m.owner = ref ∧ m.enumeration = c.name ∧ m.traits = c.traits := by
  obtain ⟨literals, hl⟩ := h.body
  have hd : m ∈ c.declared.getD [] := mem_of_mem_distinct hm
  rw [hl.declared, PropertyClass.fresh] at hd
  cases literals with
  | none => cases hd
  | some ls =>
    obtain ⟨l, -, rfl⟩ := List.mem_map.1 hd
    exact ⟨rfl, rfl, rfl⟩

theorem givenText_eq (m : Member) :
    m.givenText = match m.traits.lookup textTrait with
      | none => .ok m.text
      | some (.text s) => .ok s
      | some .slot => .error (.unfilled textTrait) := rfl

theorem Fits.exists_givenText (h : c.Fits ref keys) (ht : c.HasTexts) :
    ∀ m ∈ c.members, ∃ t, m.givenText = .ok t := by
  intro m hm
  rcases ht with hnil | hslot
  · rw [hnil] at hm
    cases hm
  rw [givenText_eq, (h.member hm).2.2]
  split
  · exact ⟨m.text, rfl⟩
  · exact ⟨_, rfl⟩
  · rename_i hs
    exact absurd hs hslot

/-- A registered class has a rule. -/
theorem Fits.exists_rule (h : c.Fits ref keys) (hk : keys ≠ []) : ∃ r, c.rule = some r := by
  obtain ⟨k, hkind⟩ := Option.isSome_iff_exists.1 (h.kind_iff.2 hk)
  have hrule : c.given .rule := (h.complete k hkind).1 .rule (by cases k <;> simp [Kind.needs])
  exact Option.isSome_iff_exists.1 hrule

/-- A registered class reads every text. -/
theorem exists_parse (h : c.Fits ref keys) (hl : c.Legible) (hk : keys ≠ []) (s : String) :
    ∃ found, c.parse s = .ok found := by
  obtain ⟨r, hr⟩ := h.exists_rule hk
  rw [parse_of_rule hr]
  refine Rule.exists_parse ?_ s
  rintro rfl
  exact h.exists_givenText (hl hr)

/-- A class that reads any text at all is legible. -/
theorem Fits.legible_of_parse (h : c.Fits ref keys) {s : String} {found : Option Value}
    (hp : c.parse s = .ok found) : c.Legible := by
  intro hr
  rw [parse_of_rule hr, Rule.parse] at hp
  cases hm : c.members with
  | nil => exact .inl hm
  | cons m rest =>
    refine .inr fun hslot => ?_
    have hgiven : m.givenText = .error (.unfilled textTrait) := by
      rw [givenText_eq, (h.member (by simp [hm])).2.2, hslot]
    simp [hm, matching?, hgiven, bind, Except.bind] at hp

theorem parse_ne_null (c : PropertyClass) (s : String) : c.parse s ≠ .ok (some .null) := by
  intro h
  cases hr : c.rule with
  | none =>
    rw [parse, hr] at h
    cases h
  | some r =>
    rw [parse_of_rule hr] at h
    cases r with
    | enumeration =>
      cases hm : matching? s c.members with
      | error f => rw [Rule.parse, hm] at h; cases h
      | ok found => cases found <;> rw [Rule.parse, hm] at h <;> cases h
    | scalar p => exact p.parse?_ne_null s (Except.ok.inj h)
    | optional p sentinel =>
      have hs := Except.ok.inj h
      split at hs
      · cases hs
      · exact p.parse?_ne_null s hs

/-- A field accepts what its primitive reads. -/
theorem accept_of_parse? {p : Primitive} (hp : c.primitive = some p)
    (hk : c.kind = some .scalar ∨ c.kind = some .optional) {s : String} {v : Value}
    (h : p.parse? s = some v) : c.accept v = .ok (some v) := by
  cases p with
  | uint =>
    obtain ⟨n, rfl, hle, -⟩ := Primitive.parse?_uint_eq_some_iff.1 h
    have hn : acceptInteger (.int n) = .ok (.int n) := if_pos ⟨by omega, by omega⟩
    rcases hk with hk | hk <;> simp [accept, acceptTyped, hk, hp, hn, Except.map]
  | bool =>
    obtain ⟨b, rfl, -⟩ := Primitive.parse?_bool_eq_some_iff.1 h
    rcases hk with hk | hk <;> simp [accept, acceptTyped, hk, hp, acceptTruth, Except.map]

/-- A field accepts what its rule reads. -/
theorem accept_of_parse (hc : c.Follows r) {s : String} {v : Value}
    (h : c.parse s = .ok (some v)) : c.accept v = .ok (some v) := by
  rw [parse_of_rule hc.rule] at h
  cases r with
  | enumeration =>
    have hm : (matching? s c.members).map (Option.map Value.member) = .ok (some v) := h
    cases hf : matching? s c.members with
    | error f => simp [hf, Except.map] at hm
    | ok found =>
      rw [hf] at hm
      obtain ⟨m, rfl, rfl⟩ := Option.map_eq_some_iff.1 (Except.ok.inj hm)
      have hmem := (matching?_eq_some hf).1
      simp [accept, acceptTyped, hc.kind, Rule.kind, acceptMember, hmem, Except.map]
  | scalar p => exact accept_of_parse? (hc.primitive p rfl) (.inl hc.kind) (Except.ok.inj h)
  | optional p sentinel =>
    have hs : (if s = sentinel then some Value.explicitNone else p.parse? s) = some v :=
      Except.ok.inj h
    split at hs
    · obtain rfl := Option.some.inj hs
      simp [accept, acceptTyped, hc.kind, Rule.kind, Except.map]
    · exact accept_of_parse? (hc.primitive p rfl) (.inr hc.kind) hs

end PropertyClass

/-- Looking for a text among members only fails on a slot in place of their texts. -/
theorem matching?_eq_error {s : String} {members : List Member} {f : Failure}
    (h : matching? s members = .error f) : f = .unfilled textTrait := by
  induction members with
  | nil => cases h
  | cons m rest ih =>
    cases hm : m.givenText with
    | error g =>
      obtain rfl : g = f := by simpa [matching?, hm, bind, Except.bind] using h
      rw [PropertyClass.givenText_eq] at hm
      split at hm <;> cases hm
      rfl
    | ok t =>
      by_cases ht : t = s
      · simp [matching?, hm, ht, bind, Except.bind, pure, Except.pure] at h
      · exact ih (by simpa [matching?, hm, ht, bind, Except.bind] using h)

theorem Rule.parse_eq_error {members : List Member} {r : Rule} {s : String} {f : Failure}
    (h : r.parse members s = .error f) : f = .unfilled textTrait := by
  cases r with
  | enumeration =>
    cases hm : matching? s members with
    | error g =>
      rw [parse, hm] at h
      cases h
      exact matching?_eq_error hm
    | ok found =>
      rw [parse, hm] at h
      cases h
  | scalar p => cases h
  | optional p sentinel => cases h

namespace Catalog

/-- All registered classes are legible. -/
def Legible (cat : Catalog) : Prop := ∀ e ∈ cat.registry, ∀ c ∈ cat.class? e.2, c.Legible

instance (cat : Catalog) : Decidable cat.Legible :=
  inferInstanceAs (Decidable (∀ e ∈ cat.registry, ∀ c ∈ cat.class? e.2, c.Legible))

/-- The properties of the entries are legible. -/
def Reads (cat : Catalog) (entries : List (String × String)) : Prop :=
  ∀ e ∈ entries, ∀ c ∈ cat.property? e.1, c.Legible

instance (cat : Catalog) (entries : List (String × String)) : Decidable (cat.Reads entries) :=
  inferInstanceAs (Decidable (∀ e ∈ entries, ∀ c ∈ cat.property? e.1, c.Legible))

theorem Legible.reads {cat : Catalog} (h : cat.Legible) (hs : cat.Sound)
    (entries : List (String × String)) : cat.Reads entries := by
  intro e _ c hc
  obtain ⟨ref, hr, hclass⟩ := Option.bind_eq_some_iff.1 hc
  exact h _ (hs.ref?_eq_some_iff.1 hr) c hclass

theorem Sound.exists_parse {cat : Catalog} (h : cat.Sound) {key : String} {c : PropertyClass}
    (hc : cat.property? key = some c) (hl : c.Legible) (raw : String) :
    ∃ found, c.parse raw = .ok found := by
  obtain ⟨ref, hr, hclass⟩ := Option.bind_eq_some_iff.1 hc
  have hkeys : cat.keysOf ref ≠ [] := h.keysOf_ne_nil_iff.2 ⟨key, hr⟩
  exact PropertyClass.exists_parse (h.fits ref c hclass) hl hkeys raw

theorem Sound.legible_of_parse {cat : Catalog} (h : cat.Sound) {key : String} {c : PropertyClass}
    (hc : cat.property? key = some c) {s : String} {found : Option Value}
    (hp : c.parse s = .ok found) : c.Legible := by
  obtain ⟨ref, -, hclass⟩ := Option.bind_eq_some_iff.1 hc
  exact (h.fits ref c hclass).legible_of_parse hp

/-- A registered class only fails to read a text if its members have a slot in place of theirs. -/
theorem Sound.parse_eq_error {cat : Catalog} (h : cat.Sound) {key s : String} {c : PropertyClass}
    {f : Failure} (hc : cat.property? key = some c) (hf : c.parse s = .error f) :
    f = .unfilled textTrait := by
  obtain ⟨ref, hr, hclass⟩ := Option.bind_eq_some_iff.1 hc
  have hkeys : cat.keysOf ref ≠ [] := h.keysOf_ne_nil_iff.2 ⟨key, hr⟩
  obtain ⟨r, hrule⟩ := (h.fits ref c hclass).exists_rule hkeys
  rw [PropertyClass.parse_of_rule hrule] at hf
  exact Rule.parse_eq_error hf

/-- A catalog with an enumeration besides the standard classes. -/
def made (literals : List (String × String)) : Catalog :=
  initial.after [.newClass "Mode" (some literals)]

/-- A catalog in which the enumeration is declared. -/
def enumerated (literals : List (String × String)) : Catalog :=
  ((made literals).declare (.custom 0) .enumeration "mode").1

theorem reachable_made (literals : List (String × String)) : (made literals).Reachable :=
  reaches_after (by simp [Change.Custom])

theorem reachable_enumerated (literals : List (String × String)) :
    (enumerated literals).Reachable :=
  (reachable_made literals).declare 0 .enumeration "mode"

/-- The members of the enumeration have an empty slot in place of texts. -/
def slotted : Catalog := enumerated [("__slots__", textTrait), ("ON", "on")]

def slottedProperties : Properties where
  entries := [("mode", "on")]
  nodup := by decide

theorem unhidden_slotted : ∀ c ∈ slotted.custom, c.Unhidden := by decide +kernel

/-- A catalog with a class that is declared once. -/
def once : Catalog :=
  initial.after [.newClass "Wrap" (some [("OFF", "off"), ("ON", "on"), ("NO", "off")]),
    .declare (.custom 0) (.optional .uint "off") "wrap_column"]

/-- A catalog in which the class is declared again, by another rule. -/
def twice : Catalog := (once.declare (.custom 0) .enumeration "wrap").1

theorem reachable_once : once.Reachable := reaches_after (by simp [Change.Custom])

theorem settled_twice : twice.Settled (.custom 0) := .declared reachable_once rfl

theorem reachable_twice : twice.Reachable := settled_twice.reachable

end Catalog

end EditorConfig

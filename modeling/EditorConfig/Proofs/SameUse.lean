import EditorConfig.Proofs.Served

/-! Property classes that are used alike. A class may hold a primitive or a sentinel that its kind
does not need, or a rule without a kind, since declarations of it failed. Classes that differ in
such attributes only are used alike, and declarations keep it that way. -/

namespace EditorConfig.PropertyClass

/-- Both classes have the same body, key and kind, and the same of what the kind needs. -/
structure SameUse (c d : PropertyClass) : Prop where
  body : c.SameBody d
  key : d.key = c.key
  kind : d.kind = c.kind
  rule : c.kind.isSome → d.rule = c.rule
  primitive : c.kind = some .scalar ∨ c.kind = some .optional → d.primitive = c.primitive
  sentinel : c.kind = some .optional → d.sentinel = c.sentinel

theorem SameUse.refl (c : PropertyClass) : c.SameUse c :=
  ⟨.refl c, rfl, rfl, fun _ => rfl, fun _ => rfl, fun _ => rfl⟩

section Uses

variable {c d : PropertyClass}

theorem SameUse.exists_rule (h : c.SameUse d) (hc : c.Equipped) :
    ∃ r, c.rule = some r ∧ d.rule = some r := by
  obtain ⟨r, hr⟩ := Option.isSome_iff_exists.1 hc.rule
  exact ⟨r, hr, (h.rule hc.kind).trans hr⟩

theorem SameUse.parse_eq (h : c.SameUse d) (hc : c.Equipped) : d.parse = c.parse := by
  obtain ⟨r, hr, hd⟩ := h.exists_rule hc
  funext s
  rw [parse_of_rule hr, parse_of_rule hd, h.body.members]

theorem SameUse.read_eq (h : c.SameUse d) (hc : c.Equipped) : d.read = c.read := by
  obtain ⟨r, hr, hd⟩ := h.exists_rule hc
  funext v
  rw [read_of_rule hr, read_of_rule hd, h.body.members]

theorem SameUse.renderMember_eq (h : c.SameUse d) : d.renderMember = c.renderMember := by
  funext v
  have hmember : d.memberOf? v = c.memberOf? v := by
    cases v <;> simp only [memberOf?, h.body.members]
  rw [renderMember, renderMember, hmember, h.body.name]

/-- Classes with all their attributes render without templates. -/
theorem SameUse.render_eq (h : c.SameUse d) (hc : c.Equipped)
    (fill other : String → Value → Except Failure String) (v : Value) :
    d.render other v = c.render fill v := by
  obtain ⟨k, hk⟩ := Option.isSome_iff_exists.1 hc.kind
  have hd : d.kind = some k := h.kind.trans hk
  have hprimitive : k = .scalar ∨ k = .optional → v ≠ .explicitNone →
      d.render other v = c.render fill v := by
    intro hor hne
    have hkind : c.kind = some .scalar ∨ c.kind = some .optional := by
      rcases hor with rfl | rfl
      · exact .inl hk
      · exact .inr hk
    obtain ⟨p, hp⟩ := Option.isSome_iff_exists.1 (hc.primitive hkind)
    have hdp : d.primitive = some p := (h.primitive hkind).trans hp
    rw [render_of_primitive hkind hp hne, render_of_primitive (h.kind ▸ hkind) hdp hne]
  cases k with
  | enumeration => rw [render_of_enumeration hk, render_of_enumeration hd, h.renderMember_eq]
  | scalar =>
    by_cases hv : v = .explicitNone
    · rw [hv, render_explicitNone_of_scalar hk, render_explicitNone_of_scalar hd, h.body.name]
    · exact hprimitive (.inl rfl) hv
  | optional =>
    by_cases hv : v = .explicitNone
    · obtain ⟨s, hs⟩ := Option.isSome_iff_exists.1 (hc.sentinel hk)
      have hds : d.sentinel = some s := (h.sentinel hk).trans hs
      rw [hv, render_explicitNone_of_optional hk hs, render_explicitNone_of_optional hd hds]
    · exact hprimitive (.inr rfl) hv

theorem SameUse.require_key_eq (h : c.SameUse d) (hc : c.Equipped) :
    d.require .key d.key = c.require .key c.key := by
  obtain ⟨key, hkey⟩ := Option.isSome_iff_exists.1 hc.key
  rw [h.key, hkey]
  rfl

theorem SameUse.primitiveName_eq (h : c.SameUse d) (hc : c.Equipped)
    (hkind : c.kind = some .scalar ∨ c.kind = some .optional) :
    d.primitiveName = c.primitiveName := by
  obtain ⟨p, hp⟩ := Option.isSome_iff_exists.1 (hc.primitive hkind)
  simp only [primitiveName, h.primitive hkind, hp]

theorem SameUse.describe_eq (h : c.SameUse d) (hc : c.Equipped) : d.describe = c.describe := by
  obtain ⟨k, hk⟩ := Option.isSome_iff_exists.1 hc.kind
  rw [describe, describe, h.require_key_eq hc, shownKind_of_kind hk,
    shownKind_of_kind (h.kind.trans hk)]
  cases k with
  | enumeration => simp only [bind, Except.bind, h.body.name, h.body.members]
  | scalar => simp only [bind, Except.bind, h.primitiveName_eq hc (.inl hk)]
  | optional =>
    obtain ⟨s, hs⟩ := Option.isSome_iff_exists.1 (hc.sentinel hk)
    simp only [bind, Except.bind, h.primitiveName_eq hc (.inr hk), shownSentinel, h.sentinel hk, hs]

theorem SameUse.lookup_eq (h : c.SameUse d) (hc : c.Equipped) : d.lookup = c.lookup := by
  funext entries
  rw [lookup, lookup, h.require_key_eq hc, h.read_eq hc]

end Uses

section Declarations

variable {c d : PropertyClass}

/-- A declaration that succeeds gives all that its kind needs. -/
theorem SameBody.sameUse_foldl (h : c.SameBody d) (r : Rule) (key : String) :
    ((r.attributes key).foldl assign c).SameUse ((r.attributes key).foldl assign d) := by
  cases r with
  | enumeration =>
    refine ⟨⟨h.name, h.declared, h.traits⟩, rfl, rfl, fun _ => rfl, ?_, ?_⟩
    · rintro (hk | hk) <;> cases hk
    · rintro hk
      cases hk
  | scalar p =>
    refine ⟨⟨h.name, h.declared, h.traits⟩, rfl, rfl, fun _ => rfl, fun _ => rfl, ?_⟩
    rintro hk
    cases hk
  | optional p s =>
    exact ⟨⟨h.name, h.declared, h.traits⟩, rfl, rfl, fun _ => rfl, fun _ => rfl, fun _ => rfl⟩

theorem SameUse.assign (h : c.SameUse d) {a : Assignment} (ha : a.target ≠ .kind) :
    (c.assign a).SameUse (d.assign a) := by
  obtain ⟨⟨hname, hdeclared, htraits⟩, hkey, hkind, hrule, hprimitive, hsentinel⟩ := h
  cases a with
  | rule r => exact ⟨⟨hname, hdeclared, htraits⟩, hkey, hkind, fun _ => rfl, hprimitive, hsentinel⟩
  | primitive p => exact ⟨⟨hname, hdeclared, htraits⟩, hkey, hkind, hrule, fun _ => rfl, hsentinel⟩
  | sentinel s => exact ⟨⟨hname, hdeclared, htraits⟩, hkey, hkind, hrule, hprimitive, fun _ => rfl⟩
  | key key => exact ⟨⟨hname, hdeclared, htraits⟩, rfl, hkind, hrule, hprimitive, hsentinel⟩
  | kind k => exact absurd rfl ha

/-- Attributes are given to both classes up to the same one. -/
theorem SameUse.assignAll (h : c.SameUse d) {as : List Assignment}
    (ha : ∀ a ∈ as, a.target ≠ .kind) : (c.assignAll as).1.SameUse (d.assignAll as).1 := by
  induction as generalizing c d with
  | nil => exact h
  | cons a rest ih =>
    obtain ⟨hfirst, hrest⟩ := List.forall_mem_cons.1 ha
    rw [PropertyClass.assignAll, PropertyClass.assignAll, h.body.hider?]
    split
    · exact h
    · exact ih (h.assign hfirst) hrest

theorem SameBody.assignAll_result_eq (h : c.SameBody d) (as : List Assignment) :
    (d.assignAll as).2 = (c.assignAll as).2 := by
  induction as generalizing c d with
  | nil => rfl
  | cons a rest ih =>
    have hassigned : (c.assign a).SameBody (d.assign a) := by
      cases a <;> exact ⟨h.name, h.declared, h.traits⟩
    rw [assignAll, assignAll, h.hider?]
    split
    · rfl
    · exact ih hassigned

theorem SameUse.install (h : c.SameUse d) (r : Rule) : (c.install r).1.SameUse (d.install r).1 :=
  h.assignAll fun _ ha => (Rule.target_of_mem_assignments ha).2

/-- A kind is given last, so it matters only what the classes have with it. -/
theorem SameUse.enter (h : c.SameUse d) {key : String} {k : Kind}
    (hgiven : ((c.assign (.key key)).assign (.kind k)).SameUse
      ((d.assign (.key key)).assign (.kind k))) :
    (c.enter key k).1.SameUse (d.enter key k).1 := by
  have hkey : (Assignment.key key).target ≠ .kind := nofun
  simp only [PropertyClass.enter, PropertyClass.assignAll, hider?_assign, h.body.hider?]
  split
  · exact h
  · split
    · exact h.assign hkey
    · exact hgiven

/-- A declaration ends alike for both classes, and leaves them used alike. -/
theorem SameUse.declare (h : c.SameUse d) (r : Rule) (key : String) (refused : Option Failure) :
    (d.declare r key refused).2 = (c.declare r key refused).2 ∧
      (c.declare r key refused).1.SameUse (d.declare r key refused).1 := by
  have hobjection : d.objection r = c.objection r := by
    cases r <;> simp [objection, h.body.declared, h.body.name]
  have hinstalled := h.install r
  have hresult : (d.install r).2 = (c.install r).2 := h.body.assignAll_result_eq _
  unfold PropertyClass.declare
  rw [hobjection]
  cases c.objection r with
  | some f => exact ⟨rfl, h⟩
  | none =>
    rcases hc : c.install r with ⟨c', f | ⟨⟩⟩ <;> rcases hd : d.install r with ⟨d', g | ⟨⟩⟩ <;>
      rw [hc, hd] at hinstalled hresult
    · exact ⟨hresult, hinstalled⟩
    · cases hresult
    · cases hresult
    · cases refused with
      | some f => exact ⟨rfl, hinstalled⟩
      | none =>
        refine ⟨hinstalled.body.assignAll_result_eq _, hinstalled.enter ?_⟩
        have hgiven := h.body.sameUse_foldl r key
        rwa [Rule.attributes, List.foldl_append, List.foldl_append,
          ← (assignAll_eq_ok_iff.1 hc).2, ← (assignAll_eq_ok_iff.1 hd).2] at hgiven

end Declarations

end EditorConfig.PropertyClass

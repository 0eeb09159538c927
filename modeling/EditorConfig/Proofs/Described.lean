import Mathlib.Data.List.Nodup
import Mathlib.Data.List.TakeWhile
import EditorConfig.Proofs.Served

/-! Descriptions against the reading of texts. A class is described by its attributes, while its
texts are read by its rule, which has a primitive and a sentinel of its own. A declaration gives the
attributes one by one, so the two stay in step as long as no declaration that fails replaces the
primitive of a scalar without its rule. -/

namespace EditorConfig

theorem Primitive.name_injective {p q : Primitive} (h : p.name = q.name) : p = q := by
  cases p <;> cases q <;> simp_all [name]

/-- An optional property needs all that others do. -/
theorem Kind.needs_subset (k : Kind) : k.needs ⊆ Kind.optional.needs := by
  cases k <;> simp [needs]

section Traversal

variable {α β : Type} {f : α → Except Failure β} {as : List α} {bs : List β}

theorem mapM_eq_ok_iff :
    as.mapM f = .ok bs ↔ List.Forall₂ (fun a b => f a = .ok b) as bs := by
  induction as generalizing bs with
  | nil => cases bs <;> simp [pure, Except.pure]
  | cons a rest ih =>
    rw [List.mapM_cons]
    cases ha : f a with
    | error g => cases bs <;> simp [ha, bind, Except.bind]
    | ok b =>
      cases hrest : rest.mapM f with
      | error g => cases bs <;> simp [ha, hrest, ← ih, bind, Except.bind]
      | ok others => cases bs <;> simp [ha, hrest, ← ih, bind, Except.bind, pure, Except.pure]

theorem exists_of_mapM (h : as.mapM f = .ok bs) : ∀ a ∈ as, ∃ b, f a = .ok b := by
  have hpairs := mapM_eq_ok_iff.1 h
  clear h
  induction hpairs with
  | nil => simp
  | cons hab _ ih => exact List.forall_mem_cons.2 ⟨⟨_, hab⟩, ih⟩

theorem mem_iff_of_mapM (h : as.mapM f = .ok bs) {b : β} : b ∈ bs ↔ ∃ a ∈ as, f a = .ok b := by
  have hpairs := mapM_eq_ok_iff.1 h
  clear h
  induction hpairs with
  | nil => simp
  | cons hab _ ih => simp [hab, ih, eq_comm]

end Traversal

namespace PropertyClass

variable {c d : PropertyClass} {r s : Rule} {ref : ClassRef} {keys : List String}

/-- The assignments of a rule that are carried out: those before the first one whose place is
taken. -/
def reached (c : PropertyClass) (r : Rule) : List Assignment :=
  r.assignments.takeWhile fun a => (c.hider? a.target).isNone

theorem assignAll_fst (c : PropertyClass) (as : List Assignment) :
    (c.assignAll as).1 =
      (as.takeWhile fun a => (c.hider? a.target).isNone).foldl assign c := by
  induction as generalizing c with
  | nil => rfl
  | cons a rest ih =>
    rw [assignAll]
    cases ha : c.hider? a.target with
    | some m => simp [ha]
    | none => simp [ha, ih]

theorem rule_mem_assignments (r : Rule) : Assignment.rule r ∈ r.assignments := by
  cases r <;> simp [Rule.assignments]

/-- Where all places are free, the rule is come to. -/
theorem rule_mem_reached (h : ∀ a ∈ r.assignments, c.hider? a.target = none) :
    .rule r ∈ c.reached r := by
  have hall : c.reached r = r.assignments :=
    List.takeWhile_eq_self_iff.2 fun a ha => by simp [h a ha]
  rw [hall]
  exact rule_mem_assignments r

theorem rule_foldl_assign {as : List Assignment} (h : ∀ a ∈ as, a.target ≠ .rule) :
    (as.foldl assign c).rule = c.rule := by
  induction as generalizing c with
  | nil => rfl
  | cons a rest ih =>
    have ha : (c.assign a).rule = c.rule := by
      have htarget := h a List.mem_cons_self
      cases a <;> simp_all [assign, Assignment.target]
    rw [List.foldl_cons, ih fun b hb => h b (List.mem_cons_of_mem a hb), ha]

/-- A declaration that does not come to its rule fails, and the class keeps the rule that it has. -/
theorem exists_declare_eq_error (ho : c.objection r = none)
    (h : ∀ a ∈ c.reached r, a.target ≠ .rule) (key : String) (refused : Option Failure) :
    ∃ d f, c.declare r key refused = (d, .error f) ∧ d.rule = c.rule := by
  rcases hins : c.install r with ⟨d, f | ⟨⟩⟩
  · refine ⟨d, f, ?_, ?_⟩
    · unfold declare
      rw [ho, hins]
    · have hd : (c.install r).1.rule = c.rule := by
        rw [install, assignAll_fst]
        exact rule_foldl_assign h
      rwa [hins] at hd
  · exact absurd rfl (h _ (rule_mem_reached (assignAll_eq_ok_iff.1 hins).1))

/-- The attributes of the class belong to a rule, and could be given again. -/
structure Holds (c : PropertyClass) (r : Rule) : Prop extends c.Follows r where
  free : ∀ a ∈ r.kind.needs, c.hider? a = none

theorem holds_of_declare {key : String} {refused : Option Failure}
    (h : c.declare r key refused = (d, .ok ())) : d.Holds r where
  toFollows := follows_of_declare h
  free a ha := by
    obtain ⟨-, -, hfree, rfl⟩ := declare_eq_ok_iff.1 h
    rw [(sameBody_foldl_assign c (r.attributes key)).hider?]
    obtain ⟨x, hx, rfl⟩ := List.mem_map.1 (r.map_target_assignments.mem_iff.2 ha)
    exact hfree x (by simp [Rule.attributes, hx])

theorem objection_of_sameBody (h : c.SameBody d) (ho : c.objection r = none) :
    d.objection r = none := by
  cases r with
  | enumeration => simpa [objection, h.declared] using ho
  | scalar p => rfl
  | optional p sentinel => exact ho

/-- A declaration of a class that does not come to its rule leaves the class in step with the rule
that it has, unless it leaves a scalar with another primitive. -/
theorem Holds.declare (hc : c.Holds r) (ho : c.objection s = none)
    (hrule : ∀ a ∈ c.reached s, a.target ≠ .rule) (key : String) (refused : Option Failure)
    (hscalar : r.kind = .scalar → (c.declare s key refused).1.primitive = c.primitive) :
    (c.declare s key refused).1.Holds r := by
  obtain ⟨d, f, hd, hkept⟩ := exists_declare_eq_error ho hrule key refused
  have haltered := altered_of_declare hd
  rw [hd] at hscalar ⊢
  have hkind : d.kind = some r.kind := haltered.kind.trans hc.kind
  have hobjection := objection_of_sameBody haltered.body hc.objection
  have hfree : ∀ a ∈ r.kind.needs, d.hider? a = none := by
    rw [haltered.body.hider?]
    exact hc.free
  cases r with
  | enumeration =>
    exact ⟨⟨hkept.trans hc.rule, hkind, by simp [Rule.primitive?], by simp [Rule.sentinel?],
      hobjection⟩, hfree⟩
  | scalar p =>
    have hprimitive : d.primitive = some p := (hscalar rfl).trans (hc.primitive p rfl)
    exact ⟨⟨hkept.trans hc.rule, hkind, by simp [Rule.primitive?, hprimitive],
      by simp [Rule.sentinel?], hobjection⟩, hfree⟩
  | optional p sentinel =>
    -- Everything that a rule can have was given, so any other rule can be given too.
    have hall : ∀ a ∈ s.assignments, c.hider? a.target = none := by
      intro a ha
      have hneeded := s.map_target_assignments.mem_iff.1 (List.mem_map_of_mem ha)
      exact hc.free a.target (s.kind.needs_subset hneeded)
    exact absurd rfl (hrule _ (rule_mem_reached hall))

/-- Members without their aliases are all different. -/
theorem nodup_distinct (members : List Member) : (distinct members).Nodup := by
  induction members with
  | nil => exact .nil
  | cons m rest ih =>
    refine List.nodup_cons.2 ⟨?_, ih.filter _⟩
    simp

/-- The texts that an enumeration is described by are those that it recognizes. -/
theorem exists_parse_iff_mem (hr : c.rule = some .enumeration) {values : List String}
    (h : c.members.mapM Member.givenText = .ok values) (t : String) :
    ∃ found, c.parse t = .ok found ∧ (found.isSome ↔ t ∈ values) := by
  have hparse : c.parse t = (matching? t c.members).map (Option.map Value.member) :=
    parse_of_rule hr t
  obtain ⟨found, hf⟩ := exists_matching? t (exists_of_mapM h)
  refine ⟨found.map .member, by rw [hparse, hf, Except.map], ?_⟩
  rw [mem_iff_of_mapM h]
  cases found with
  | none =>
    have hnone := matching?_eq_none hf
    simpa using hnone
  | some m =>
    obtain ⟨hm, hmt⟩ := matching?_eq_some hf
    simpa using ⟨m, hm, hmt⟩

/-- No text is shown twice, and each is read as the member that shows it. -/
theorem Fits.values (hfits : c.Fits ref keys) (hr : c.rule = some .enumeration)
    (hd : c.Distinguishable) {values : List String}
    (h : c.members.mapM Member.givenText = .ok values) :
    values.Nodup ∧
      List.Forall₂ (fun m t => c.parse t = .ok (some (.member m))) c.members values := by
  have hshown : List.Forall₂ (fun m t => m ∈ c.members ∧ m.givenText = .ok t) c.members values :=
    (List.forall₂_and_left _ _).2 ⟨fun m hm => hm, mapM_eq_ok_iff.1 h⟩
  constructor
  · have hunique : Relator.BiUnique fun (m : Member) t => m ∈ c.members ∧ m.givenText = .ok t := by
      refine ⟨fun m t n hm hn => ?_, fun m s t hs ht => ?_⟩
      · exact eq_of_givenText hfits hd hm.1 hn.1 hm.2 hn.2
      · exact Except.ok.inj (hs.2.symm.trans ht.2)
    exact (List.rel_nodup hunique hshown).1 (nodup_distinct _)
  · refine hshown.imp fun m t hmt => ?_
    have hfound := (matching?_eq_some_iff hfits hd).2 hmt
    rw [parse_of_rule hr, Rule.parse, hfound]
    rfl

/-- The description of a class whose attributes belong to a rule. -/
theorem Follows.describe_eq (hc : c.Follows r) {key : String} (hk : c.key = some key) :
    c.describe =
      match r with
      | .enumeration => (c.members.mapM Member.givenText).map fun values =>
          ⟨key, .inl .enumeration, c.name, some values, none⟩
      | .scalar p => .ok ⟨key, .inl .scalar, p.name, none, none⟩
      | .optional p sentinel => .ok ⟨key, .inl .optional, p.name, none, some sentinel⟩ := by
  rw [describe, hk, shownKind_of_kind hc.kind]
  cases r with
  | enumeration =>
    cases c.members.mapM Member.givenText <;>
      simp [require, Rule.kind, bind, Except.bind, pure, Except.pure, Except.map]
  | scalar p =>
    have hp := hc.primitive p rfl
    simp [require, Rule.kind, primitiveName, hp, bind, Except.bind, pure, Except.pure]
  | optional p sentinel =>
    have hp := hc.primitive p rfl
    have hs := hc.sentinel sentinel rfl
    simp [require, Rule.kind, primitiveName, shownSentinel, hp, hs, bind, Except.bind, pure,
      Except.pure]

end PropertyClass

/-- The description says which texts the class reads, and as what. -/
structure Description.Describes (d : Description) (c : PropertyClass) : Prop where
  kind : ∃ k, d.kind = .inl k
  enumeration : d.kind = .inl .enumeration → ∃ values, d.values = some values ∧
    (∀ s, ∃ found, c.parse s = .ok found ∧ (found.isSome ↔ s ∈ values)) ∧
    (c.Distinguishable → values.Nodup ∧
      List.Forall₂ (fun m s => c.parse s = .ok (some (.member m))) c.members values)
  scalar : d.kind = .inl .scalar → ∃ p : Primitive, p.name = d.typeName ∧
    ∀ s, c.parse s = .ok (p.parse? s)
  optional : d.kind = .inl .optional → ∃ (p : Primitive) (sentinel : String),
    p.name = d.typeName ∧ d.sentinel = some sentinel ∧ p.parse? sentinel = none ∧
    ∀ s, (c.parse s = .ok (some .explicitNone) ↔ s = sentinel) ∧
      (s ≠ sentinel → c.parse s = .ok (p.parse? s))

/-- Classes other than enumerations that are described alike read alike. -/
theorem Description.Describes.parse_eq {c e : PropertyClass} {d f : Description}
    (hd : d.Describes c) (hf : f.Describes e) (hkind : f.kind = d.kind)
    (hne : d.kind ≠ .inl .enumeration) (htype : f.typeName = d.typeName)
    (hsentinel : d.kind = .inl .optional → f.sentinel = d.sentinel) (s : String) :
    e.parse s = c.parse s := by
  obtain ⟨k, hk⟩ := hd.kind
  cases k with
  | enumeration => exact absurd hk hne
  | scalar =>
    obtain ⟨p, hp, hparse⟩ := hd.scalar hk
    obtain ⟨q, hq, hother⟩ := hf.scalar (hkind.trans hk)
    obtain rfl := Primitive.name_injective ((hq.trans htype).trans hp.symm)
    rw [hparse, hother]
  | optional =>
    obtain ⟨p, x, hp, hx, -, hparse⟩ := hd.optional hk
    obtain ⟨q, y, hq, hy, -, hother⟩ := hf.optional (hkind.trans hk)
    obtain rfl := Primitive.name_injective ((hq.trans htype).trans hp.symm)
    obtain rfl := Option.some.inj (hy.symm.trans ((hsentinel hk).trans hx))
    by_cases hs : s = y
    · rw [(hparse s).1.2 hs, (hother s).1.2 hs]
    · rw [(hparse s).2 hs, (hother s).2 hs]

namespace PropertyClass

variable {c : PropertyClass} {r : Rule} {ref : ClassRef} {keys : List String} {d : Description}

theorem Follows.describes (hc : c.Follows r) (hfits : c.Fits ref keys) {key : String}
    (hk : c.key = some key) (h : c.describe = .ok d) : d.key = key ∧ d.Describes c := by
  rw [hc.describe_eq hk] at h
  cases r with
  | enumeration =>
    cases hm : c.members.mapM Member.givenText with
    | error f => simp [hm, Except.map] at h
    | ok values =>
      obtain rfl : _ = d := by simpa [hm, Except.map] using h
      refine ⟨rfl, ⟨_, rfl⟩, fun _ => ⟨values, rfl, exists_parse_iff_mem hc.rule hm, ?_⟩,
        by simp, by simp⟩
      exact fun hd => hfits.values hc.rule hd hm
  | scalar p =>
    cases h
    exact ⟨rfl, ⟨_, rfl⟩, by simp, fun _ => ⟨p, rfl, parse_of_rule hc.rule⟩, by simp⟩
  | optional p sentinel =>
    cases h
    have hnone : p.parse? sentinel = none := by
      simpa [PropertyClass.objection] using hc.objection
    refine ⟨rfl, ⟨_, rfl⟩, by simp, by simp,
      fun _ => ⟨p, sentinel, rfl, rfl, hnone, fun s => ⟨?_, ?_⟩⟩⟩
    · rw [parse_of_optional hc.rule hc.objection]
      have hother := p.parse?_ne_explicitNone s
      simp [hother]
    · intro hs
      rw [parse_of_rule hc.rule, Rule.parse, if_neg hs]

end PropertyClass

namespace Catalog

/-- The change is a declaration that gives the class its rule, whether or not it succeeds. -/
def Gives (cat : Catalog) (ref : ClassRef) : Change → Prop
  | .newClass _ _ => False
  | .declare target r _ => target = ref ∧ ∃ c, cat.class? ref = some c ∧ c.objection r = none ∧
      .rule ∈ (c.reached r).map Assignment.target

/-- The last declaration that gave the class a rule succeeded. If it was one of a scalar, none has
left another primitive since. -/
inductive Current : Catalog → ClassRef → Prop
  | standard (p : StandardProperty) : Current .initial (.standard p)
  | declared {cat : Catalog} {i : Nat} {r : Rule} {key : String} :
      cat.Reachable → (cat.declare (.custom i) r key).2 = .ok () →
      Current (cat.declare (.custom i) r key).1 (.custom i)
  | kept {cat : Catalog} {ref : ClassRef} {change : Change} :
      Current cat ref → change.Custom → ¬ cat.Gives ref change →
      (∀ c d, cat.class? ref = some c → (cat.apply change).1.class? ref = some d →
        c.kind = some .scalar → d.primitive = c.primitive) →
      Current (cat.apply change).1 ref

variable {cat : Catalog} {ref : ClassRef} {c : PropertyClass}

theorem Gives.installs {change : Change} (h : cat.Gives ref change) : cat.Installs ref change := by
  cases change with
  | newClass name literals => exact h
  | declare target r key =>
    obtain ⟨htarget, c, hc, ho, -⟩ := h
    exact ⟨htarget, c, hc, ho⟩

theorem Settled.current (h : cat.Settled ref) : cat.Current ref := by
  induction h with
  | standard p => exact .standard p
  | declared hcat hok => exact .declared hcat hok
  | kept _ hcustom hnot ih =>
    refine ih.kept hcustom (fun hgives => hnot hgives.installs) fun c d hc hd _ => ?_
    have hsame := class?_apply_of_not_installs hnot hc
    rw [Option.some.inj (hd.symm.trans hsame)]

/-- Standard classes are never declared again. -/
theorem Reachable.settled_standard (h : cat.Reachable) (p : StandardProperty) :
    cat.Settled (.standard p) := by
  induction h with
  | refl => exact .standard p
  | @step cat change _ hcustom ih =>
    refine ih.kept hcustom fun hinstalls => ?_
    cases change with
    | newClass name literals => exact hinstalls
    | declare target r key =>
      obtain ⟨i, rfl⟩ := hcustom
      cases hinstalls.1

theorem Current.reachable (h : cat.Current ref) : cat.Reachable := by
  induction h with
  | standard => exact .initial
  | declared hcat _ => exact hcat.declare _ _ _
  | kept _ hc _ _ ih => exact ih.step hc

/-- The class holds its rule. -/
theorem Current.exists_holds (h : cat.Current ref) :
    ∃ c r, cat.class? ref = some c ∧ c.Holds r := by
  induction h with
  | standard p =>
    exact ⟨_, p.rule, rfl, PropertyClass.holds_of_declare (PropertyClass.declare_standard p)⟩
  | @declared cat i r key _ hok =>
    obtain ⟨c, d, -, hd, hnext⟩ := exists_declare_of_ok hok
    exact ⟨d, r, hnext, PropertyClass.holds_of_declare hd⟩
  | @kept cat ref change _ hcustom hrule hscalar ih =>
    obtain ⟨c, r, hc, hr⟩ := ih
    by_cases hi : cat.Installs ref change
    · cases change with
      | newClass name literals => exact hi.elim
      | declare target s key =>
        obtain ⟨rfl, d, hd, ho⟩ := hi
        obtain rfl : d = c := Option.some.inj (hd.symm.trans hc)
        have hself := class?_declare_self hc s key
        refine ⟨_, r, hself, hr.declare ho (fun a ha heq => ?_) key _ fun hk => ?_⟩
        · exact hrule ⟨rfl, d, hc, ho, heq ▸ List.mem_map_of_mem ha⟩
        · exact hscalar d _ hc hself (hr.kind.trans (congrArg some hk))
    · exact ⟨c, r, class?_apply_of_not_installs hi hc, hr⟩

/-- A class that has a kind is registered under its key. -/
theorem Sound.exists_key (h : cat.Sound) (hc : cat.class? ref = some c) {k : Kind}
    (hk : c.kind = some k) : ∃ key, c.key = some key ∧ cat.ref? key = some ref := by
  have hkeys := (h.fits ref c hc).kind_iff.1 (Option.isSome_iff_exists.2 ⟨k, hk⟩)
  obtain ⟨key, hkey⟩ := h.keysOf_ne_nil_iff.1 hkeys
  obtain ⟨d, j, hd, hj, -, hr⟩ := h.exists_latest hkey
  obtain rfl : d = c := Option.some.inj (hd.symm.trans hc)
  exact ⟨j, hj, hr⟩

/-- A description leads back to its class, and says what the class reads. -/
theorem Current.describes (h : cat.Current ref) (hc : cat.class? ref = some c) {d : Description}
    (hd : c.describe = .ok d) : cat.ref? d.key = some ref ∧ d.Describes c := by
  obtain ⟨e, r, he, hr⟩ := h.exists_holds
  obtain rfl : e = c := Option.some.inj (he.symm.trans hc)
  have hsound := h.reachable.sound
  obtain ⟨key, hkey, href⟩ := hsound.exists_key hc hr.kind
  obtain ⟨rfl, hdescribes⟩ := hr.describes (hsound.fits ref e hc) hkey hd
  exact ⟨href, hdescribes⟩

/-- A class is described unless it lists members that show no texts. -/
theorem Current.exists_describe (h : cat.Current ref) (hc : cat.class? ref = some c)
    (hshown : c.kind = some .enumeration →
      c.members = [] ∨ c.traits.lookup textTrait ≠ some .slot) :
    ∃ d, c.describe = .ok d := by
  obtain ⟨e, r, he, hr⟩ := h.exists_holds
  obtain rfl : e = c := Option.some.inj (he.symm.trans hc)
  have hsound := h.reachable.sound
  obtain ⟨key, hkey, -⟩ := hsound.exists_key hc hr.kind
  rw [hr.describe_eq hkey]
  cases r with
  | enumeration =>
    have htexts := (hsound.fits ref e hc).exists_givenText (hshown hr.kind)
    obtain ⟨values, hvalues⟩ := exists_mapM_ok htexts
    exact ⟨_, by rw [hvalues, Except.map]⟩
  | scalar p => exact ⟨_, rfl⟩
  | optional p sentinel => exact ⟨_, rfl⟩

/-- Descriptions say exactly what is read. -/
theorem describe_exact (h : cat.Current ref) (hc : cat.class? ref = some c) :
    ((c.kind = some .enumeration →
        c.members = [] ∨ c.traits.lookup textTrait ≠ some .slot) →
      ∃ d, c.describe = .ok d) ∧
    ∀ d, c.describe = .ok d →
      cat.ref? d.key = some ref ∧ d.Describes c ∧
      ∀ (other : Catalog) (target : ClassRef) (e : PropertyClass) (f : Description),
        other.Current target → other.class? target = some e → e.describe = .ok f →
        f.kind = d.kind → d.kind ≠ .inl .enumeration → f.typeName = d.typeName →
        (d.kind = .inl .optional → f.sentinel = d.sentinel) →
        ∀ s, e.parse s = c.parse s := by
  refine ⟨h.exists_describe hc, fun d hd => ?_⟩
  obtain ⟨href, hdescribes⟩ := h.describes hc hd
  refine ⟨href, hdescribes, fun other target e f hother he hf hkind hne htype hsentinel => ?_⟩
  obtain ⟨-, hothers⟩ := hother.describes he hf
  exact hdescribes.parse_eq hothers hkind hne htype hsentinel

/-- An alias of a member is not listed, and a class that was declared later reads as a standard one
that is described alike. -/
theorem describe_exact_twice :
    (∃ c d, twice.Current (.custom 0) ∧ twice.class? (.custom 0) = some c ∧
      c.describe = .ok d ∧ d.values = some ["off", "on"] ∧
      twice.ref? d.key = some (.custom 0) ∧ d.Describes c) ∧
    ∃ c e, once.Current (.custom 0) ∧ once.class? (.custom 0) = some c ∧
      twice.class? (.standard .maxLineLength) = some e ∧ c.key ≠ e.key ∧
      ∀ s, e.parse s = c.parse s := by
  have hmade : (initial.after
      [.newClass "Wrap" (some [("OFF", "off"), ("ON", "on"), ("NO", "off")])]).Reachable :=
    reaches_after (by simp [Change.Custom])
  have honce : once.Current (.custom 0) := .declared hmade rfl
  have hlength := (reachable_twice.settled_standard .maxLineLength).current
  constructor
  · obtain ⟨c, hc, htraits, hvalues⟩ : ∃ c, twice.class? (.custom 0) = some c ∧ c.traits = [] ∧
        ∀ d, c.describe = .ok d → d.values = some ["off", "on"] := by
      refine ⟨_, rfl, rfl, fun d hd => ?_⟩
      cases hd
      rfl
    obtain ⟨hreturns, hsays⟩ := describe_exact settled_twice.current hc
    obtain ⟨d, hd⟩ := hreturns fun _ => .inr (by simp [htraits])
    obtain ⟨href, hdescribes, -⟩ := hsays d hd
    exact ⟨c, d, settled_twice.current, hc, hd, hvalues d hd, href, hdescribes⟩
  · obtain ⟨c, d, hc, hd, hkind, htype, hsentinel, hkey⟩ : ∃ c d,
        once.class? (.custom 0) = some c ∧ c.describe = .ok d ∧ d.kind = .inl .optional ∧
        d.typeName = "uint" ∧ d.sentinel = some "off" ∧ c.key = some "wrap_column" :=
      ⟨_, _, rfl, rfl, rfl, rfl, rfl, rfl⟩
    obtain ⟨e, f, he, hf, hkinds, htypes, hsentinels, hkeys⟩ : ∃ e f,
        twice.class? (.standard .maxLineLength) = some e ∧ e.describe = .ok f ∧
        f.kind = .inl .optional ∧ f.typeName = "uint" ∧ f.sentinel = some "off" ∧
        e.key = some "max_line_length" := ⟨_, _, rfl, rfl, rfl, rfl, rfl, rfl⟩
    obtain ⟨-, hsays⟩ := describe_exact honce hc
    obtain ⟨-, -, halike⟩ := hsays d hd
    refine ⟨c, e, honce, hc, he, by simp [hkey, hkeys], ?_⟩
    exact halike twice _ e f hlength he hf (hkinds.trans hkind.symm) (by simp [hkind])
      (htypes.trans htype.symm) fun _ => hsentinels.trans hsentinel.symm

/-- A scalar class with a member in the place of a sentinel. -/
def sentineled : Catalog :=
  ((made [("sentinel", "x"), ("ON", "on")]).declare (.custom 0) (.scalar .uint) "mode").1

/-- The declaration of another primitive with a sentinel, which cannot be given. -/
def displacing : Change := .declare (.custom 0) (.optional .bool "off") "other"

/-- Members with a slot in place of texts are not described; a text in their place is listed for all
of them; and a primitive that is given without a rule is taken for the one that reads. -/
theorem not_describe_exact :
    (slotted.Settled (.custom 0) ∧
      ∃ c f, slotted.class? (.custom 0) = some c ∧ c.describe = .error f) ∧
    (shadowed.Settled (.custom 0) ∧ ∃ c d values, shadowed.class? (.custom 0) = some c ∧
      c.describe = .ok d ∧ d.values = some values ∧ ¬ values.Nodup) ∧
    (sentineled.Settled (.custom 0) ∧ ¬ sentineled.Gives (.custom 0) displacing ∧
      ∃ c d, (sentineled.apply displacing).1.class? (.custom 0) = some c ∧ c.describe = .ok d ∧
        d.kind = .inl .scalar ∧
        ∀ p : Primitive, p.name = d.typeName → ¬ ∀ s, c.parse s = .ok (p.parse? s)) := by
  refine ⟨⟨.declared (reachable_made _) rfl, _, _, rfl, rfl⟩,
    ⟨.declared (reachable_made _) rfl, _, _, _, rfl, rfl, rfl, by decide⟩,
    .declared (reachable_made _) rfl, ?_, ?_⟩
  · rintro ⟨-, c, hc, -, hrule⟩
    cases hc
    revert hrule
    decide
  · obtain ⟨c, d, hc, hd, hkind, htype, hparse⟩ : ∃ c d,
        (sentineled.apply displacing).1.class? (.custom 0) = some c ∧ c.describe = .ok d ∧
        d.kind = .inl .scalar ∧ d.typeName = "bool" ∧
        ∀ s, c.parse s = .ok (Primitive.uint.parse? s) :=
      ⟨_, _, rfl, rfl, rfl, rfl, fun s => rfl⟩
    refine ⟨c, d, hc, hd, hkind, fun p hp hall => ?_⟩
    obtain rfl : p = .bool := Primitive.name_injective (hp.trans htype)
    have hbool : c.parse "true" = .ok (some (.bool true)) := hall "true"
    have huint : c.parse "true" = .ok none := hparse "true"
    rw [hbool] at huint
    cases huint

end Catalog

end EditorConfig

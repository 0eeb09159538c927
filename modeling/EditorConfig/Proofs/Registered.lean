import EditorConfig.Catalog.History
import EditorConfig.Proofs.Declared
import EditorConfig.Proofs.DistinctKeys

/-! What every change keeps of a catalog. All that a change can do is said once, as a step, and the
invariant of the registry is derived from it: keys are well formed and different, a class is
registered exactly if it has a kind, its own key is the latest of its keys, and it has all that a
property of its kind is used with. -/

namespace EditorConfig

namespace PropertyClass

/-- The class has all that a property of its kind is used with. -/
def Complete (c : PropertyClass) : Prop :=
  ∀ k, c.kind = some k →
    (∀ a ∈ k.needs, c.given a) ∧ (k = .enumeration → c.declared.isSome)

theorem Complete.of_altered {c d : PropertyClass} (h : c.Complete) (hd : c.Altered d) :
    d.Complete := by
  intro k hk
  obtain ⟨hneeds, hmembers⟩ := h k (hd.kind ▸ hk)
  refine ⟨fun a ha => hd.given a (hneeds a ha), fun he => ?_⟩
  rw [hd.body.declared]
  exact hmembers he

/-- A declaration that succeeds gives all that a property of the kind is used with. -/
theorem complete_of_declare {c d : PropertyClass} {r : Rule} {key : String}
    {refused : Option Failure} (h : c.declare r key refused = (d, .ok ())) :
    d.key = some key ∧ d.kind = some r.kind ∧ d.Complete := by
  obtain ⟨hobj, -, -, rfl⟩ := declare_eq_ok_iff.1 h
  have hkind : ((r.attributes key).foldl assign c).kind = some r.kind := by
    rw [Rule.attributes, List.foldl_append]
    rfl
  refine ⟨?_, hkind, ?_⟩
  · rw [Rule.attributes, List.foldl_append]
    rfl
  · intro k hk
    obtain rfl : r.kind = k := Option.some.inj (hkind.symm.trans hk)
    constructor
    · intro a ha
      rw [given_foldl_assign, Rule.attributes, List.map_append, List.mem_append]
      exact Or.inl (Or.inl (r.map_target_assignments.mem_iff.2 ha))
    · intro he
      rw [(sameBody_foldl_assign c _).declared]
      cases r with
      | enumeration => exact Option.isSome_iff_ne_none.2 (by simpa [objection] using hobj)
      | scalar p => cases he
      | optional p s => cases he

/-- What holds of a class and the keys that it is registered under, in the order of their
registration. -/
structure Fits (c : PropertyClass) (ref : ClassRef) (keys : List String) : Prop where
  body : ∃ literals, SameBody (.fresh ref c.name literals c.traits) c
  complete : c.Complete
  kind_iff : c.kind.isSome ↔ keys ≠ []
  /-- Where a member is in the place of the kind, none can be given. -/
  open_of_kind : c.kind.isSome → c.hider? .kind = none
  latest : c.hider? .kind = none → c.key = keys.getLast?

theorem Fits.fresh (owner : ClassRef) (name : String) (members : Option (List (String × String)))
    (traits : List (String × Trait)) : (fresh owner name members traits).Fits owner [] where
  body := ⟨members, .refl _⟩
  complete k h := by cases h
  kind_iff := by simp [PropertyClass.fresh]
  open_of_kind h := by cases h
  latest _ := rfl

theorem Fits.of_altered {c d : PropertyClass} {ref : ClassRef} {keys : List String}
    (h : c.Fits ref keys) (hd : c.Altered d) : d.Fits ref keys where
  body := by
    obtain ⟨literals, hl⟩ := h.body
    refine ⟨literals, ?_⟩
    rw [hd.body.name, hd.body.traits]
    exact hl.trans hd.body
  complete := h.complete.of_altered hd
  kind_iff := by rw [hd.kind, h.kind_iff]
  open_of_kind hk := by
    rw [hd.body.hider?]
    exact h.open_of_kind (hd.kind ▸ hk)
  latest hf := by
    rw [hd.body.hider?] at hf
    rw [hd.key hf, h.latest hf]

theorem Fits.of_declare {c d : PropertyClass} {ref : ClassRef} {keys : List String} {r : Rule}
    {key : String} {refused : Option Failure} (h : c.Fits ref keys)
    (hd : c.declare r key refused = (d, .ok ())) : d.Fits ref (keys ++ [key]) := by
  obtain ⟨hkey, hkind, hcomplete⟩ := complete_of_declare hd
  obtain ⟨-, -, hfree, rfl⟩ := declare_eq_ok_iff.1 hd
  have hbody := sameBody_foldl_assign c (r.attributes key)
  obtain ⟨literals, hl⟩ := h.body
  refine ⟨⟨literals, ?_⟩, hcomplete, by simp [hkind], fun _ => ?_, fun _ => by simp [hkey]⟩
  · rw [hbody.name, hbody.traits]
    exact hl.trans hbody
  · rw [hbody.hider?]
    exact hfree (.kind r.kind) (by simp [Rule.attributes])

/-- Standard classes are declared as others are. -/
theorem declare_standard (p : StandardProperty) :
    (fresh (.standard p) p.className p.literals []).declare p.rule p.key none =
      (p.propertyClass, .ok ()) := by
  refine declare_eq_ok_iff.2 ⟨?_, rfl, ?_, rfl⟩ <;> cases p <;> decide

theorem Fits.standard (p : StandardProperty) : p.propertyClass.Fits (.standard p) [p.key] :=
  (Fits.fresh (.standard p) p.className p.literals []).of_declare (declare_standard p)

end PropertyClass

namespace Catalog

/-- What a change can do: nothing, make a class, alter a class without giving it a kind, or declare
a class and register it. -/
inductive Step (cat : Catalog) : Catalog → Prop
  | same : Step cat cat
  | made {name : String} {literals : Option (List (String × String))} {c : PropertyClass} :
      PropertyClass.create (.custom cat.custom.length) name literals = .ok c →
      Step cat { cat with custom := cat.custom ++ [c] }
  | altered {i : Nat} {c d : PropertyClass} :
      cat.class? (.custom i) = some c → c.Altered d → Step cat (cat.update (.custom i) d)
  | registered {i : Nat} {c d : PropertyClass} {r : Rule} {key : String} :
      cat.class? (.custom i) = some c → c.declare r key none = (d, .ok ()) →
      isKey key → cat.knows key = false →
      Step cat ((cat.update (.custom i) d).register key (.custom i))

theorem keyObjection_eq_none_iff {cat : Catalog} {key : String} :
    cat.keyObjection key = none ↔ isKey key = true ∧ cat.knows key = false := by
  rw [keyObjection]
  cases isKey key <;> cases cat.knows key <;> simp

theorem step_apply (cat : Catalog) {change : Change} (h : change.Custom) :
    cat.Step (cat.apply change).1 := by
  cases change with
  | newClass name literals =>
    rw [apply, newClass]
    split
    · exact .same
    · rename_i c hc
      exact .made hc
  | declare ref r key =>
    obtain ⟨i, rfl⟩ := h
    rw [apply, declare]
    split
    · exact .same
    · rename_i c hc
      rcases hd : c.declare r key (cat.keyObjection key) with ⟨d, f | ⟨⟩⟩
      · exact .altered hc (PropertyClass.altered_of_declare hd)
      · have hkey : cat.keyObjection key = none := (PropertyClass.declare_eq_ok_iff.1 hd).2.1
        rw [hkey] at hd
        obtain ⟨hshape, hfree⟩ := keyObjection_eq_none_iff.1 hkey
        exact .registered hc hd hshape hfree

/-- The keys of a class, in the order of their registration. -/
def keysOf (cat : Catalog) (ref : ClassRef) : List String :=
  (cat.registry.filter fun e => decide (e.2 = ref)).map Prod.fst

theorem mem_keysOf {cat : Catalog} {ref : ClassRef} {key : String} :
    key ∈ cat.keysOf ref ↔ (key, ref) ∈ cat.registry := by
  simp [keysOf]

@[simp] theorem keysOf_update (cat : Catalog) (ref : ClassRef) (c : PropertyClass) :
    (cat.update ref c).keysOf = cat.keysOf := by
  funext r
  rw [keysOf, registry_update, keysOf]

theorem keysOf_register_self (cat : Catalog) (key : String) (ref : ClassRef) :
    (cat.register key ref).keysOf ref = cat.keysOf ref ++ [key] := by
  simp [keysOf, register]

theorem keysOf_register_of_ne (cat : Catalog) (key : String) {ref other : ClassRef}
    (h : other ≠ ref) : (cat.register key ref).keysOf other = cat.keysOf other := by
  simp [keysOf, register, Ne.symm h]

theorem class?_made_self (cat : Catalog) (c : PropertyClass) :
    class? { cat with custom := cat.custom ++ [c] } (.custom cat.custom.length) = some c := by
  simp [class?]

theorem class?_made_of_ne (cat : Catalog) (c : PropertyClass) {ref : ClassRef}
    (h : ref ≠ .custom cat.custom.length) :
    class? { cat with custom := cat.custom ++ [c] } ref = cat.class? ref := by
  cases ref with
  | standard p => rfl
  | custom i =>
    have hi : i ≠ cat.custom.length := fun he => h (he ▸ rfl)
    rcases Nat.lt_or_gt_of_ne hi with hlt | hgt
    · simp [class?, List.getElem?_append_left hlt]
    · have hnone : cat.custom[i]? = none := by simp; omega
      have hlong : (cat.custom ++ [c])[i]? = none := by simp; omega
      exact hlong.trans hnone.symm

theorem class?_next (cat : Catalog) : cat.class? (.custom cat.custom.length) = none := by
  simp [class?]

/-- The invariant of a catalog. -/
structure Sound (cat : Catalog) : Prop where
  standard : cat.standard = StandardProperty.propertyClass
  fits : ∀ ref c, cat.class? ref = some c → c.Fits ref (cat.keysOf ref)
  class_of_mem : ∀ e ∈ cat.registry, (cat.class? e.2).isSome
  shaped : ∀ e ∈ cat.registry, isKey e.1
  nodup : (cat.registry.map Prod.fst).Nodup

theorem sound_initial : Sound initial where
  standard := rfl
  fits ref c h := by
    cases ref with
    | standard p =>
      obtain rfl : StandardProperty.propertyClass p = c := Option.some.inj h
      have hkeys : initial.keysOf (.standard p) = [p.key] := by cases p <;> decide
      rw [hkeys]
      exact .standard p
    | custom i => simp [class?, initial] at h
  class_of_mem := by decide
  shaped := by decide
  nodup := by decide

theorem Sound.ref?_eq_some_iff {cat : Catalog} (h : cat.Sound) {key : String} {ref : ClassRef} :
    cat.ref? key = some ref ↔ (key, ref) ∈ cat.registry :=
  Entries.lookup_eq_some_iff_mem h.nodup

theorem Sound.keysOf_ne_nil_iff {cat : Catalog} (h : cat.Sound) {ref : ClassRef} :
    cat.keysOf ref ≠ [] ↔ ∃ key, cat.ref? key = some ref := by
  constructor
  · intro hne
    obtain ⟨key, hk⟩ := List.exists_mem_of_ne_nil _ hne
    exact ⟨key, h.ref?_eq_some_iff.2 (mem_keysOf.1 hk)⟩
  · rintro ⟨key, hr⟩
    exact List.ne_nil_of_mem (mem_keysOf.2 (h.ref?_eq_some_iff.1 hr))

/-- A registered key has a property. -/
theorem Sound.property?_of_ref? {cat : Catalog} (h : cat.Sound) {key : String} {ref : ClassRef}
    (hr : cat.ref? key = some ref) :
    ∃ c, cat.class? ref = some c ∧ cat.property? key = some c := by
  obtain ⟨c, hc⟩ := Option.isSome_iff_exists.1 (h.class_of_mem _ (h.ref?_eq_some_iff.1 hr))
  exact ⟨c, hc, Option.bind_eq_some_iff.2 ⟨ref, hr, hc⟩⟩

/-- The key of a registered class is the latest one, and leads back to the class. -/
theorem Sound.exists_latest {cat : Catalog} (h : cat.Sound) {key : String} {ref : ClassRef}
    (hr : cat.ref? key = some ref) :
    ∃ c j, cat.class? ref = some c ∧ c.key = some j ∧ (cat.keysOf ref).getLast? = some j ∧
      cat.ref? j = some ref := by
  obtain ⟨c, hc, -⟩ := h.property?_of_ref? hr
  have hfits := h.fits ref c hc
  have hkeys : cat.keysOf ref ≠ [] := h.keysOf_ne_nil_iff.2 ⟨key, hr⟩
  have hlatest := hfits.latest (hfits.open_of_kind (hfits.kind_iff.2 hkeys))
  obtain ⟨j, hj⟩ := Option.isSome_iff_exists.1 (List.getLast?_isSome.2 hkeys)
  have hmem : (j, ref) ∈ cat.registry := mem_keysOf.1 (List.mem_of_getLast? hj)
  exact ⟨c, j, hc, hlatest.trans hj, hj, h.ref?_eq_some_iff.2 hmem⟩

theorem Sound.knows_iff {cat : Catalog} (h : cat.Sound) {key : String} :
    cat.knows key ↔ key ∈ cat.registry.map Prod.fst := by
  rw [← Entries.lookup_isSome_iff_mem, Option.isSome_iff_exists]
  constructor
  · intro hk
    obtain ⟨c, hc⟩ := Option.isSome_iff_exists.1 hk
    obtain ⟨ref, hr, -⟩ := Option.bind_eq_some_iff.1 hc
    exact ⟨ref, hr⟩
  · rintro ⟨ref, hr⟩
    obtain ⟨c, -, hc⟩ := h.property?_of_ref? hr
    rw [knows, hc]
    rfl

/-- A class that does not exist yet is not registered. -/
theorem Sound.keysOf_next {cat : Catalog} (h : cat.Sound) :
    cat.keysOf (.custom cat.custom.length) = [] := by
  refine List.eq_nil_iff_forall_not_mem.2 fun key hk => ?_
  have hsome := h.class_of_mem _ (mem_keysOf.1 hk)
  rw [class?_next] at hsome
  cases hsome

theorem Sound.made {cat : Catalog} (h : cat.Sound) {name : String}
    {literals : Option (List (String × String))} {c : PropertyClass}
    (hc : PropertyClass.create (.custom cat.custom.length) name literals = .ok c) :
    Sound { cat with custom := cat.custom ++ [c] } where
  standard := h.standard
  fits ref d hd := by
    by_cases href : ref = .custom cat.custom.length
    · subst href
      obtain ⟨members, traits, rfl⟩ := PropertyClass.exists_fresh_of_create hc
      rw [class?_made_self, Option.some.injEq] at hd
      have hkeys := h.keysOf_next
      rw [keysOf] at hkeys
      rw [keysOf, hkeys, ← hd]
      exact .fresh _ _ _ _
    · rw [class?_made_of_ne cat c href] at hd
      exact h.fits ref d hd
  class_of_mem e he := by
    -- No key leads to the class that is made, because none leads to a class that does not exist.
    have hne : e.2 ≠ .custom cat.custom.length := by
      intro heq
      have hsome := h.class_of_mem e he
      rw [heq, class?_next] at hsome
      cases hsome
    rw [class?_made_of_ne cat c hne]
    exact h.class_of_mem e he
  shaped := h.shaped
  nodup := h.nodup

/-- Every class after an update is the new one, or another one that was there before. -/
theorem class?_update_cases {cat : Catalog} {ref other : ClassRef} {c d e : PropertyClass}
    (hc : cat.class? ref = some c) (he : (cat.update ref d).class? other = some e) :
    (other = ref ∧ e = d) ∨ (other ≠ ref ∧ cat.class? other = some e) := by
  by_cases h : other = ref
  · subst h
    rw [class?_update_self hc] at he
    exact .inl ⟨rfl, (Option.some.inj he).symm⟩
  · rw [class?_update_of_ne h] at he
    exact .inr ⟨h, he⟩

/-- A declaration leaves in the class what it has given, whether or not it succeeds. -/
theorem class?_declare_self {cat : Catalog} {ref : ClassRef} {c : PropertyClass}
    (hc : cat.class? ref = some c) (r : Rule) (key : String) :
    (cat.declare ref r key).1.class? ref =
      some (c.declare r key (cat.keyObjection key)).1 := by
  rw [declare, hc]
  rcases hd : c.declare r key (cat.keyObjection key) with ⟨d, f | ⟨⟩⟩
  · simp only [hd]
    exact class?_update_self hc
  · simp only [hd, class?_register]
    exact class?_update_self hc

theorem class?_declare_of_ne {cat : Catalog} {ref target : ClassRef} (h : ref ≠ target) (r : Rule)
    (key : String) : (cat.declare target r key).1.class? ref = cat.class? ref := by
  rw [declare]
  split
  · rfl
  · split
    · exact class?_update_of_ne h
    · rw [class?_register]
      exact class?_update_of_ne h

/-- Every class after a change was there before, is new, or is what a declaration leaves. -/
theorem class?_apply_cases {cat : Catalog} {change : Change} {ref : ClassRef} {e : PropertyClass}
    (h : (cat.apply change).1.class? ref = some e) :
    cat.class? ref = some e ∨
    (∃ name literals, change = .newClass name literals ∧
      PropertyClass.create (.custom cat.custom.length) name literals = .ok e) ∨
    ∃ r key c, change = .declare ref r key ∧ cat.class? ref = some c ∧
      e = (c.declare r key (cat.keyObjection key)).1 := by
  cases change with
  | newClass name literals =>
    rw [apply, newClass] at h
    split at h
    · exact .inl h
    · rename_i d hd
      by_cases hnext : ref = .custom cat.custom.length
      · rw [hnext, class?_made_self] at h
        cases h
        exact .inr (.inl ⟨name, literals, rfl, hd⟩)
      · rw [class?_made_of_ne cat d hnext] at h
        exact .inl h
  | declare target r key =>
    rw [apply] at h
    by_cases ht : ref = target
    · subst ht
      cases hc : cat.class? ref with
      | none =>
        rw [declare, hc] at h
        exact .inl (hc.symm.trans h)
      | some c =>
        rw [class?_declare_self hc] at h
        exact .inr (.inr ⟨r, key, c, rfl, rfl, (Option.some.inj h).symm⟩)
    · rw [class?_declare_of_ne ht] at h
      exact .inl h

theorem class?_update_isSome {cat : Catalog} {ref other : ClassRef} {c d : PropertyClass}
    (hc : cat.class? ref = some c) (h : (cat.class? other).isSome) :
    ((cat.update ref d).class? other).isSome := by
  by_cases he : other = ref
  · subst he
    rw [class?_update_self hc]
    rfl
  · rwa [class?_update_of_ne he]

theorem Sound.altered {cat : Catalog} (h : cat.Sound) {i : Nat} {c d : PropertyClass}
    (hc : cat.class? (.custom i) = some c) (hd : c.Altered d) :
    (cat.update (.custom i) d).Sound where
  standard := h.standard
  fits ref e he := by
    rw [keysOf_update]
    rcases class?_update_cases hc he with ⟨rfl, rfl⟩ | ⟨-, he⟩
    · exact (h.fits _ c hc).of_altered hd
    · exact h.fits ref e he
  class_of_mem e he := class?_update_isSome hc (h.class_of_mem e he)
  shaped := h.shaped
  nodup := h.nodup

theorem Sound.registered {cat : Catalog} (h : cat.Sound) {i : Nat} {c d : PropertyClass}
    {r : Rule} {key : String} (hc : cat.class? (.custom i) = some c)
    (hd : c.declare r key none = (d, .ok ())) (hshape : isKey key) (hfree : cat.knows key = false) :
    ((cat.update (.custom i) d).register key (.custom i)).Sound where
  standard := h.standard
  fits ref e he := by
    rw [class?_register] at he
    rcases class?_update_cases hc he with ⟨rfl, rfl⟩ | ⟨hne, he⟩
    · rw [keysOf_register_self, keysOf_update]
      exact (h.fits _ c hc).of_declare hd
    · rw [keysOf_register_of_ne _ key hne, keysOf_update]
      exact h.fits ref e he
  class_of_mem e he := by
    rw [class?_register]
    rcases List.mem_append.1 he with he | he
    · exact class?_update_isSome hc (h.class_of_mem e he)
    · rw [List.mem_singleton.1 he, class?_update_self hc]
      rfl
  shaped e he := by
    rcases List.mem_append.1 he with he | he
    · exact h.shaped e he
    · rw [List.mem_singleton.1 he]
      exact hshape
  nodup := by
    have hnew : key ∉ cat.registry.map Prod.fst := by
      rw [← h.knows_iff, hfree]
      simp
    rw [register, registry_update, List.map_append]
    refine List.nodup_append.2 ⟨h.nodup, by simp, ?_⟩
    intro a ha b hb heq
    rw [List.map_singleton, List.mem_singleton] at hb
    rw [heq, hb] at ha
    exact hnew ha

theorem Sound.step {cat next : Catalog} (h : cat.Sound) (hs : cat.Step next) : next.Sound := by
  cases hs with
  | same => exact h
  | made hc => exact h.made hc
  | altered hc hd => exact h.altered hc hd
  | registered hc hd hshape hfree => exact h.registered hc hd hshape hfree

theorem Reachable.sound {cat : Catalog} (h : cat.Reachable) : cat.Sound := by
  induction h with
  | refl => exact sound_initial
  | @step cat change _ hc ih => exact ih.step (cat.step_apply hc)

/-- The registry only grows. -/
theorem Step.registry_grows {cat next : Catalog} (h : cat.Step next) :
    cat.registry <+: next.registry := by
  cases h with
  | same => exact List.prefix_rfl
  | made _ => exact List.prefix_rfl
  | altered _ _ => exact List.prefix_rfl
  | registered _ _ _ _ => exact List.prefix_append _ _

theorem Reaches.registry_grows {cat later : Catalog} (h : cat.Reaches later) :
    cat.registry <+: later.registry := by
  induction h with
  | refl => exact List.prefix_rfl
  | @step mid change _ hc ih => exact ih.trans (mid.step_apply hc).registry_grows

/-- A registered key keeps its class. -/
theorem Reaches.ref? {cat later : Catalog} (h : cat.Reaches later) {key : String} {ref : ClassRef}
    (hr : cat.ref? key = some ref) : later.ref? key = some ref :=
  h.registry_grows.lookup_eq_some hr

theorem Reachable.ref?_key {cat : Catalog} (h : cat.Reachable) (p : StandardProperty) :
    cat.ref? p.key = some (.standard p) := by
  have hinit : Catalog.initial.ref? p.key = some (.standard p) := by cases p <;> decide
  exact Reaches.ref? h hinit

theorem Reachable.property?_key {cat : Catalog} (h : cat.Reachable) (p : StandardProperty) :
    cat.property? p.key = some (cat.standard p) :=
  Option.bind_eq_some_iff.2 ⟨_, h.ref?_key p, rfl⟩

/-- Changes leave the standard classes as they are declared. -/
theorem Sound.follows_standard {cat : Catalog} (h : cat.Sound) (p : StandardProperty) :
    (cat.standard p).Follows p.rule := by
  rw [h.standard]
  exact PropertyClass.follows_of_declare (PropertyClass.declare_standard p)

end Catalog

end EditorConfig

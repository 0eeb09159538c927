import EditorConfig.Proofs.Alike

/-! What declarations of made classes do. A declaration that succeeds registers its key; one that
fails registers nothing, and leaves at most its rule in the class, where no one finds it who asks
about registered properties. -/

namespace EditorConfig

namespace PropertyClass

/-- The class can be given the rule: a sentinel stands for no value of its primitive, and an
enumeration has members. -/
structure Admits (c : PropertyClass) (r : Rule) : Prop where
  sentinel : ∀ p s, r = .optional p s → p.parse? s = none
  enumeration : r = .enumeration → c.declared.isSome

/-- The class with the rule and what belongs to it. A primitive or a sentinel that the rule does not
have stays. -/
def withRule (c : PropertyClass) (r : Rule) : PropertyClass :=
  { c with
    rule := some r
    primitive := r.primitive?.or c.primitive
    sentinel := r.sentinel?.or c.sentinel }

theorem objection_eq_none_iff {c : PropertyClass} {r : Rule} :
    c.objection r = none ↔ c.Admits r := by
  constructor
  · intro h
    refine ⟨?_, ?_⟩
    · rintro p s rfl
      simpa [objection] using h
    · rintro rfl
      by_contra hd
      simp [objection, hd] at h
  · rintro ⟨hsentinel, henumeration⟩
    cases r with
    | enumeration => simp [objection, henumeration rfl]
    | scalar p => rfl
    | optional p s => simp [objection, hsentinel p s rfl]

theorem objection_eq_some_iff {c : PropertyClass} {r : Rule} {f : Failure} :
    c.objection r = some f ↔
      (∃ p s, r = .optional p s ∧ (p.parse? s).isSome ∧ f = .sentinelRecognized s p) ∨
      (r = .enumeration ∧ c.declared = none ∧ f = .notEnumeration c.name) := by
  cases r with
  | enumeration =>
    cases hd : c.declared <;> simp [objection, hd, eq_comm (a := f)]
  | scalar p => simp [objection]
  | optional p s =>
    cases hs : p.parse? s <;> simp [objection, hs, eq_comm (a := f)]

/-- A rule is of no use without a kind. -/
theorem sameUse_withRule {c : PropertyClass} (h : c.kind = none) (r : Rule) :
    c.SameUse (c.withRule r) where
  body := ⟨rfl, rfl, rfl⟩
  key := rfl
  kind := rfl
  rule hk := by simp [h] at hk
  primitive hk := by simp [h] at hk
  sentinel hk := by simp [h] at hk

theorem foldl_assign_assignments (c : PropertyClass) (r : Rule) :
    r.assignments.foldl assign c = c.withRule r := by
  cases r <;> rfl

/-- A class whose places are free is given everything up to the first objection. -/
theorem Unhidden.declare_eq {c : PropertyClass} (hu : c.Unhidden) (r : Rule) (key : String)
    (refused : Option Failure) :
    c.declare r key refused =
      match c.objection r, refused with
      | some f, _ => (c, .error f)
      | none, some f => (c.withRule r, .error f)
      | none, none => ({ c.withRule r with key := some key, kind := some r.kind }, .ok ()) := by
  have hinstall : c.install r = (c.withRule r, .ok ()) := by
    rw [install, assignAll_of_free fun a _ => hu.hider? a.target, foldl_assign_assignments]
  have henter : (c.withRule r).enter key r.kind =
      ({ c.withRule r with key := some key, kind := some r.kind }, .ok ()) :=
    assignAll_of_free fun a _ => hu.hider? a.target
  unfold declare
  rw [hinstall]
  cases c.objection r with
  | some f => rfl
  | none =>
    cases refused with
    | some f => rfl
    | none => exact henter

end PropertyClass

namespace Catalog

/-- The failure of the first check that a declaration does not pass. -/
inductive FirstFailure (cat : Catalog) (c : PropertyClass) (r : Rule) (key : String) :
    Failure → Prop
  | sentinel {p : Primitive} {s : String} :
      r = .optional p s → (p.parse? s).isSome → FirstFailure cat c r key (.sentinelRecognized s p)
  | enumeration :
      r = .enumeration → c.declared = none → FirstFailure cat c r key (.notEnumeration c.name)
  | shape : c.Admits r → ¬ KeyShaped key → FirstFailure cat c r key (.malformedKey key)
  | taken :
      c.Admits r → KeyShaped key → key ∈ cat.registry.map Prod.fst →
      FirstFailure cat c r key (.takenKey key)

variable {cat : Catalog} {i : Nat} {c : PropertyClass}

theorem Sound.keyObjection_eq_none_iff (h : cat.Sound) {key : String} :
    cat.keyObjection key = none ↔ KeyShaped key ∧ key ∉ cat.registry.map Prod.fst := by
  rw [Catalog.keyObjection_eq_none_iff, isKey_iff, ← h.knows_iff, Bool.not_eq_true]

theorem Sound.keyObjection_eq_some_iff (h : cat.Sound) {key : String} {f : Failure} :
    cat.keyObjection key = some f ↔
      (¬ KeyShaped key ∧ f = .malformedKey key) ∨
      (KeyShaped key ∧ key ∈ cat.registry.map Prod.fst ∧ f = .takenKey key) := by
  rw [keyObjection, ← isKey_iff, ← h.knows_iff]
  cases isKey key <;> cases cat.knows key <;> simp [eq_comm]

/-- The first failure is the objection to the rule, or else the one to the key. -/
theorem Sound.firstFailure_iff (h : cat.Sound) {r : Rule} {key : String} {f : Failure} :
    cat.FirstFailure c r key f ↔ (c.objection r).or (cat.keyObjection key) = some f := by
  rw [Option.or_eq_some_iff, PropertyClass.objection_eq_some_iff,
    PropertyClass.objection_eq_none_iff, h.keyObjection_eq_some_iff]
  constructor
  · rintro (⟨hr, hs⟩ | ⟨hr, hd⟩ | ⟨hadmits, hshape⟩ | ⟨hadmits, hshape, htaken⟩)
    · exact .inl (.inl ⟨_, _, hr, hs, rfl⟩)
    · exact .inl (.inr ⟨hr, hd, rfl⟩)
    · exact .inr ⟨hadmits, .inl ⟨hshape, rfl⟩⟩
    · exact .inr ⟨hadmits, .inr ⟨hshape, htaken, rfl⟩⟩
  · rintro ((⟨p, s, hr, hs, rfl⟩ | ⟨hr, hd, rfl⟩) |
      ⟨hadmits, ⟨hshape, rfl⟩ | ⟨hshape, htaken, rfl⟩⟩)
    · exact .sentinel hr hs
    · exact .enumeration hr hd
    · exact .shape hadmits hshape
    · exact .taken hadmits hshape htaken

/-- What a declaration does that succeeds: the key leads to the class, which has everything that the
declaration gives. -/
structure Registers (cat : Catalog) (i : Nat) (c : PropertyClass) (r : Rule) (key : String)
    (next : Catalog) : Prop where
  registry : next.registry = cat.registry ++ [(key, .custom i)]
  given : next.class? (.custom i) =
    some { c.withRule r with key := some key, kind := some r.kind }
  others : ∀ ref, ref ≠ .custom i → next.class? ref = cat.class? ref

/-- What a declaration does that fails: the class has the rule if it can be given, and everything
else stays. If the class is not registered, no answers to later commands tell that there was a
declaration. -/
structure Refuses (cat : Catalog) (i : Nat) (c : PropertyClass) (r : Rule) (next : Catalog) :
    Prop where
  registry : next.registry = cat.registry
  entered : ∀ ref, (next.class? ref).map (fun d => (d.key, d.kind)) =
    (cat.class? ref).map fun d => (d.key, d.kind)
  others : ∀ ref, ref ≠ .custom i → next.class? ref = cat.class? ref
  same : ¬ c.Admits r → next = cat
  given : c.Admits r → next.class? (.custom i) = some (c.withRule r)
  unnoticed : (∀ key, cat.ref? key ≠ some (.custom i)) →
    ∀ (host : Host) (saved : List (String × Instance)) (commands : List Command),
      Session.Regards host ⟨cat, saved⟩ commands →
        Session.answers ⟨next, saved⟩ host commands = Session.answers ⟨cat, saved⟩ host commands

/-- What a declaration makes of a class whose places are free, by the first objection to it. -/
theorem declare_of_unhidden (hc : cat.class? (.custom i) = some c) (hu : c.Unhidden) (r : Rule)
    (key : String) :
    cat.declare (.custom i) r key =
      match c.objection r, cat.keyObjection key with
      | some f, _ => (cat, .error f)
      | none, some f => (cat.update (.custom i) (c.withRule r), .error f)
      | none, none =>
        ((cat.update (.custom i)
          { c.withRule r with key := some key, kind := some r.kind }).register key (.custom i),
          .ok ()) := by
  rw [declare, hc]
  simp only [hu.declare_eq]
  cases c.objection r with
  | some f => simp only [update_self hc]
  | none => cases cat.keyObjection key <;> rfl

theorem registers_update (hc : cat.class? (.custom i) = some c) (r : Rule) (key : String) :
    cat.Registers i c r key
      ((cat.update (.custom i) { c.withRule r with key := some key, kind := some r.kind }).register
        key (.custom i)) where
  registry := by rw [register, registry_update]
  given := by rw [class?_register, class?_update_self hc]
  others ref hne := by rw [class?_register, class?_update_of_ne hne]

theorem refuses_self (r : Rule) (hr : ¬ c.Admits r) : cat.Refuses i c r cat where
  registry := rfl
  entered _ := rfl
  others _ _ := rfl
  same _ := rfl
  given h := absurd h hr
  unnoticed _ _ _ _ _ := rfl

/-- A class that is not registered has no kind. -/
theorem Sound.kind_eq_none (h : cat.Sound) {ref : ClassRef} (hc : cat.class? ref = some c)
    (hfree : ∀ key, cat.ref? key ≠ some ref) : c.kind = none := by
  by_contra hne
  have hkeys := (h.fits ref c hc).kind_iff.1 (Option.isSome_iff_ne_none.2 hne)
  obtain ⟨key, hr⟩ := h.keysOf_ne_nil_iff.1 hkeys
  exact hfree key hr

theorem refuses_update (h : cat.Reachable) (hc : cat.class? (.custom i) = some c) {r : Rule}
    (hr : c.Admits r) (hnext : (cat.update (.custom i) (c.withRule r)).Reachable) :
    cat.Refuses i c r (cat.update (.custom i) (c.withRule r)) where
  registry := registry_update _ _ _
  entered ref := by
    by_cases href : ref = .custom i
    · rw [href, class?_update_self hc, hc]
      rfl
    · rw [class?_update_of_ne href]
  others _ hne := class?_update_of_ne hne
  same hn := absurd hr hn
  given _ := class?_update_self hc
  unnoticed hfree host saved commands hr := by
    have hkind : c.kind = none := h.sound.kind_eq_none hc hfree
    have halike : Session.Alike ⟨cat, saved⟩ ⟨cat.update (.custom i) (c.withRule r), saved⟩ :=
      ⟨rfl, alike_update hc (PropertyClass.sameUse_withRule hkind r), h, hnext⟩
    exact halike.answers hr

/-- A declaration of a made class succeeds exactly if the class admits the rule and the key is a
free one, and otherwise fails on the first of these that does not hold. -/
theorem declare_effects (h : cat.Reachable) (hc : cat.class? (.custom i) = some c)
    (hu : c.Unhidden) (r : Rule) (key : String) :
    ∃ next result, cat.declare (.custom i) r key = (next, result) ∧
      (result = .ok () ↔ c.Admits r ∧ KeyShaped key ∧ key ∉ cat.registry.map Prod.fst) ∧
      (∀ f, result = .error f ↔ cat.FirstFailure c r key f) ∧
      (result = .ok () → cat.Registers i c r key next) ∧
      (∀ f, result = .error f → cat.Refuses i c r next) := by
  have hsound := h.sound
  have hnext : (cat.apply (.declare (.custom i) r key)).1.Reachable := .step h ⟨i, rfl⟩
  have hfirst : ∀ f, cat.FirstFailure c r key f ↔
      (c.objection r).or (cat.keyObjection key) = some f := fun f => hsound.firstFailure_iff
  have hadmits : c.Admits r ↔ c.objection r = none := PropertyClass.objection_eq_none_iff.symm
  simp only [hfirst, hadmits, ← hsound.keyObjection_eq_none_iff]
  rw [apply, declare_of_unhidden hc hu] at hnext
  rw [declare_of_unhidden hc hu]
  cases hobjection : c.objection r with
  | some f =>
    have hr : ¬ c.Admits r := by simp [hadmits, hobjection]
    exact ⟨_, _, rfl, by simp, by simp, by simp, fun _ _ => refuses_self r hr⟩
  | none =>
    rw [hobjection] at hnext
    have hr : c.Admits r := hadmits.2 hobjection
    cases hkey : cat.keyObjection key with
    | some f =>
      rw [hkey] at hnext
      exact ⟨_, _, rfl, by simp, by simp, by simp, fun _ _ => refuses_update h hc hr hnext⟩
    | none => exact ⟨_, _, rfl, by simp, by simp, fun _ => registers_update hc r key, by simp⟩

/-- A class is declared under a key that is taken, which gives it a rule that no answers show, and
then under a free one. -/
theorem declare_effects_made :
    (made [("ON", "on")]).Reachable ∧ ∃ c refused declared,
      (made [("ON", "on")]).class? (.custom 0) = some c ∧ c.Unhidden ∧
      (made [("ON", "on")]).declare (.custom 0) .enumeration "charset" =
        (refused, .error (.takenKey "charset")) ∧
      refused.class? (.custom 0) = some (c.withRule .enumeration) ∧
      (∀ saved strict raw,
        Session.answers ⟨refused, saved⟩ .standard
            [.change (.declare (.custom 0) (.scalar .uint) "mode"), .resolve strict raw none] =
          Session.answers ⟨made [("ON", "on")], saved⟩ .standard
            [.change (.declare (.custom 0) (.scalar .uint) "mode"), .resolve strict raw none]) ∧
      refused.declare (.custom 0) .enumeration "mode" = (declared, .ok ()) ∧
      declared.registry = initial.registry ++ [("mode", .custom 0)] := by
  have h : (made [("ON", "on")]).Reachable := reachable_made _
  have hregistry : ∀ e ∈ (made [("ON", "on")]).registry, e.2 ≠ .custom 0 := by decide +kernel
  have hfree : ∀ key, (made [("ON", "on")]).ref? key ≠ some (.custom 0) :=
    fun key hr => hregistry _ (h.sound.ref?_eq_some_iff.1 hr) rfl
  obtain ⟨c, hc, hu, hadmits⟩ : ∃ c, (made [("ON", "on")]).class? (.custom 0) = some c ∧
      c.Unhidden ∧ c.Admits .enumeration :=
    ⟨_, rfl, by decide, PropertyClass.objection_eq_none_iff.1 rfl⟩
  obtain ⟨refused, result, hdeclare, -, hfailed, -, hrefuses⟩ :=
    declare_effects h hc hu .enumeration "charset"
  have htaken : result = .error (.takenKey "charset") :=
    (hfailed _).2 (.taken hadmits (isKey_iff.1 (by decide)) (by decide +kernel))
  have hrefused := hrefuses _ htaken
  have hlater : refused.Reachable := by
    have hstep : ((made [("ON", "on")]).apply (.declare (.custom 0) .enumeration "charset")).1 =
        refused := congrArg Prod.fst hdeclare
    exact hstep ▸ .step h ⟨0, rfl⟩
  obtain ⟨declared, later, hdeclared, hok, -, hregisters, -⟩ :=
    declare_effects hlater (hrefused.given hadmits) hu .enumeration "mode"
  have hlaterOk : later = .ok () := by
    refine hok.2 ⟨⟨hadmits.sentinel, hadmits.enumeration⟩, isKey_iff.1 (by decide), ?_⟩
    rw [hrefused.registry]
    decide +kernel
  refine ⟨h, c, refused, declared, hc, hu, htaken ▸ hdeclare, hrefused.given hadmits,
    fun saved strict raw => hrefused.unnoticed hfree .standard saved _
      (.cons ⟨0, rfl⟩ trivial (.cons trivial trivial .nil)), hlaterOk ▸ hdeclared, ?_⟩
  rw [(hregisters hlaterOk).registry, hrefused.registry]
  rfl

end Catalog

end EditorConfig

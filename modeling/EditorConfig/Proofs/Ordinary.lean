import EditorConfig.Proofs.Inverse
import EditorConfig.Proofs.Resolved

/-! Enumerations made of ordinary literals, which neither make a slot nor pass names over. Whatever
else they declare, all traits of such a class have names that start with an underscore, so nothing
stands in for the texts of members or for attributes. As long as no other classes are made, all
properties can be resolved, and what is rendered is what is read. -/

namespace EditorConfig

/-- The name starts with an underscore. -/
def Marked (name : String) : Prop := name.toList.head? = some '_'

instance (name : String) : Decidable (Marked name) := inferInstanceAs (Decidable (_ = _))

theorem marked_of_enclosedBy {n : Nat} {name : String} (h : enclosedBy (n + 1) name.toList) :
    Marked name := by
  unfold Marked
  cases hcs : name.toList with
  | nil => simp [enclosedBy, hcs] at h
  | cons c cs =>
    by_cases hc : c = '_'
    · simp [hc]
    · simp [enclosedBy, hcs, hc] at h

theorem marked_of_isPrivate {owner name : String} (h : isPrivate owner name) : Marked name := by
  unfold isPrivate at h
  simp only [Bool.and_eq_true, List.isPrefixOf_iff_prefix] at h
  obtain ⟨rest, hrest⟩ := h.1.1
  rw [Marked, ← hrest]
  rfl

/-- The literal makes no slot and passes no names over. -/
def OrdinaryLiteral (l : String × String) : Prop := l.1 ≠ slotAttribute ∧ l.1 ≠ ignoreDirective

namespace Body

/-- What ordinary literals declare. -/
structure Ordinary (b : Body) : Prop where
  ignored : b.ignored = []
  marked : ∀ a ∈ b.attributes, Marked a.1 ∧ a.1 ≠ slotAttribute

theorem Ordinary.keep {b : Body} (h : b.Ordinary) {name : String} (hm : Marked name)
    (hs : name ≠ slotAttribute) (text : String) : (b.keep name text).Ordinary where
  ignored := h.ignored
  marked := List.forall_mem_cons.2 ⟨⟨hm, hs⟩, h.marked⟩

theorem Ordinary.declare {owner : String} {b d : Body} {l : String × String} (h : b.Ordinary)
    (hl : OrdinaryLiteral l) (hd : declare owner b l = .ok d) : d.Ordinary := by
  obtain ⟨name, text⟩ := l
  have hslot : name ≠ slotAttribute := hl.1
  rw [Body.declare] at hd
  split at hd
  · rename_i hprivate
    cases hd
    exact h.keep (marked_of_isPrivate hprivate) hslot text
  · split at hd
    · rename_i hone
      rw [if_neg hl.2] at hd
      split at hd <;> cases hd
      exact h.keep (marked_of_enclosedBy hone) hslot text
    · split at hd
      · rename_i htwo
        cases hd
        split
        · exact h.keep (by decide) (by decide) text
        · exact h.keep (marked_of_enclosedBy htwo) hslot text
      · split at hd
        · cases hd
        · split at hd
          · rename_i hignored
            rw [h.ignored] at hignored
            cases hignored
          · split at hd <;> cases hd
            exact ⟨h.ignored, h.marked⟩

/-- All literals together declare what each of them does. -/
theorem Ordinary.foldlM {owner : String} {literals : List (String × String)} {b d : Body}
    (h : b.Ordinary) (hl : ∀ l ∈ literals, OrdinaryLiteral l)
    (hd : literals.foldlM (Body.declare owner) b = .ok d) : d.Ordinary := by
  induction literals generalizing b with
  | nil =>
    cases hd
    exact h
  | cons l rest ih =>
    rw [List.foldlM_cons] at hd
    obtain ⟨e, hb, hrest⟩ := bind_eq_ok hd
    exact ih (h.declare (hl l List.mem_cons_self) hb)
      (fun x hx => hl x (List.mem_cons_of_mem l hx)) hrest

theorem Ordinary.lookup_traits {b : Body} (h : b.Ordinary) (owner : String) {name : String}
    (hn : ¬ Marked name) : (b.traits owner).lookup name = none := by
  have hslot : b.slot? owner = none := by
    have hnone : b.attributes.lookup slotAttribute = none := by
      refine Entries.lookup_eq_none_iff_not_mem.2 fun hmem => ?_
      obtain ⟨a, ha, heq⟩ := List.mem_map.1 hmem
      exact (h.marked a ha).2 heq
    simp [slot?, attribute?, hnone]
  refine Entries.lookup_eq_none_iff_not_mem.2 fun hmem => ?_
  obtain ⟨t, ht, rfl⟩ := List.mem_map.1 hmem
  rw [traits, hslot] at ht
  simp only [Option.map_none, Option.toList_none, List.nil_append, List.mem_map,
    List.mem_filter] at ht
  obtain ⟨a, ⟨ha, -⟩, rfl⟩ := ht
  exact hn (h.marked a ha).1

end Body

namespace PropertyClass

/-- All traits of the class have names that start with an underscore. -/
def Ordinary (c : PropertyClass) : Prop :=
  ∀ name, ¬ Marked name → c.traits.lookup name = none

theorem Ordinary.of_sameBody {c d : PropertyClass} (h : c.Ordinary) (hd : c.SameBody d) :
    d.Ordinary := by
  intro name hn
  rw [hd.traits]
  exact h name hn

theorem Ordinary.legible {c : PropertyClass} (h : c.Ordinary) : c.Legible :=
  fun _ => .inr (by simp [h textTrait (by decide)])

theorem Ordinary.distinguishable {c : PropertyClass} (h : c.Ordinary) : c.Distinguishable :=
  .inr fun s => by simp [h textTrait (by decide)]

theorem ordinary_of_create {owner : ClassRef} {name : String}
    {literals : Option (List (String × String))} {c : PropertyClass}
    (hl : ∀ ls ∈ literals, ∀ l ∈ ls, OrdinaryLiteral l) (h : create owner name literals = .ok c) :
    c.Ordinary := by
  cases literals with
  | none =>
    rw [create] at h
    split at h <;> cases h
    exact fun _ _ => rfl
  | some ls =>
    rw [create] at h
    obtain ⟨b, hb, hc⟩ := bind_eq_ok h
    have hempty : Body.Ordinary {} := ⟨rfl, by simp⟩
    have hbody : b.Ordinary := hempty.foldlM (hl ls rfl) hb
    rw [ofBody] at hc
    split at hc <;> cases hc
    exact fun _ hn => hbody.lookup_traits name hn

/-- Declarations leave the body of a class, whether or not they succeed. -/
theorem sameBody_declare (c : PropertyClass) (r : Rule) (key : String)
    (refused : Option Failure) : c.SameBody (c.declare r key refused).1 := by
  rcases hd : c.declare r key refused with ⟨d, f | ⟨⟩⟩
  · exact (altered_of_declare hd).body
  · obtain ⟨-, -, -, rfl⟩ := declare_eq_ok_iff.1 hd
    exact sameBody_foldl_assign c _

end PropertyClass

/-- The change makes a class of ordinary literals, or none. -/
def Change.Ordinary : Change → Prop
  | .newClass _ literals => ∀ ls ∈ literals, ∀ l ∈ ls, OrdinaryLiteral l
  | .declare _ _ _ => True

namespace Catalog

/-- All classes of the catalog are ordinary. -/
def Ordinary (cat : Catalog) : Prop := ∀ ref c, cat.class? ref = some c → c.Ordinary

theorem Ordinary.apply {cat : Catalog} (h : cat.Ordinary) {change : Change}
    (hc : change.Ordinary) : (cat.apply change).1.Ordinary := by
  intro ref c href
  rcases class?_apply_cases href with hold | ⟨name, literals, rfl, hnew⟩ | ⟨r, key, d, rfl, hd, rfl⟩
  · exact h ref c hold
  · exact PropertyClass.ordinary_of_create hc hnew
  · exact (h ref d hd).of_sameBody (PropertyClass.sameBody_declare d r key (cat.keyObjection key))

/-- All classes are ordinary after ordinary changes. -/
theorem ordinary_after {changes : List Change} (h : ∀ change ∈ changes, change.Ordinary) :
    (initial.after changes).Ordinary := by
  have hinitial : initial.Ordinary := by
    intro ref c hc name _
    cases ref with
    | standard p =>
      obtain rfl : StandardProperty.propertyClass p = c := Option.some.inj hc
      rw [StandardProperty.propertyClass, (PropertyClass.sameBody_foldl_assign _ _).traits]
      rfl
    | custom i => simp [class?, initial] at hc
  have hrun : ∀ start : Catalog, start.Ordinary → (start.after changes).Ordinary := by
    induction changes with
    | nil => exact fun _ hs => hs
    | cons change rest ih =>
      intro start hs
      exact ih (fun c hc => h c (List.mem_cons_of_mem change hc)) _
        (hs.apply (h change List.mem_cons_self))
  exact hrun initial hinitial

theorem Ordinary.legible {cat : Catalog} (h : cat.Ordinary) : cat.Legible :=
  fun e _ c hc => (h e.2 c hc).legible

/-- After ordinary changes, all properties resolve. -/
theorem exists_resolve_of_ordinary {changes : List Change}
    (hcustom : ∀ change ∈ changes, change.Custom) (h : ∀ change ∈ changes, change.Ordinary)
    (raw : Properties) :
    ∃ r, ((initial.after changes).resolve false raw.toValue).result = .ok r := by
  have hreachable : (initial.after changes).Reachable := reaches_after hcustom
  have hreads := (ordinary_after h).legible.reads hreachable.sound raw.entries
  exact ⟨_, by rw [resolve_eq hreachable hreads, if_neg (by simp)]⟩

/-- After ordinary changes, a settled class renders a value by the text that it is read from. -/
theorem render_iff_parse_of_ordinary {changes : List Change}
    (h : ∀ change ∈ changes, change.Ordinary) {ref : ClassRef} {c : PropertyClass}
    (hsettled : (initial.after changes).Settled ref)
    (hc : (initial.after changes).class? ref = some c) (s : String) (v : Value) :
    (initial.after changes).render c v = .ok s ↔ c.parse s = .ok (some v) := by
  obtain ⟨d, r, hd, hr⟩ := hsettled.exists_follows
  obtain rfl : d = c := Option.some.inj (hd.symm.trans hc)
  exact hr.render_eq_ok_iff (hsettled.reachable.sound.fits ref d hc)
    (fun _ => (ordinary_after h ref d hc).distinguishable) s v

end Catalog

end EditorConfig

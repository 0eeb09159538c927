import EditorConfig.Property.Standard

/-! What a declaration leaves behind. A declaration that succeeds gives all attributes of its rule,
a key and a kind; one that fails may have given some of them, but never a kind. The body of the
class, which is its name, its members and its traits, stays in both cases. -/

namespace EditorConfig

/-- Everything that a declaration gives. -/
def Rule.attributes (r : Rule) (key : String) : List Assignment :=
  r.assignments ++ [.key key, .kind r.kind]

/-- The attributes that a property of the kind is used with. -/
def Kind.needs : Kind → List Attribute
  | .enumeration => [.rule]
  | .scalar => [.rule, .primitive]
  | .optional => [.rule, .primitive, .sentinel]

theorem Rule.map_target_assignments (r : Rule) :
    (r.assignments.map Assignment.target).Perm r.kind.needs := by
  cases r with
  | enumeration => exact .refl _
  | scalar p => exact .swap _ _ _
  | optional p s =>
    have hmove : ([Attribute.primitive, .sentinel] ++ [Attribute.rule]).Perm
        ([Attribute.rule] ++ [Attribute.primitive, .sentinel]) := List.perm_append_comm
    exact hmove

theorem Rule.target_of_mem_assignments {r : Rule} {a : Assignment} (h : a ∈ r.assignments) :
    a.target ≠ .key ∧ a.target ≠ .kind := by
  have ht : a.target ∈ r.kind.needs :=
    r.map_target_assignments.mem_iff.1 (List.mem_map_of_mem h)
  cases r <;> simp_all [Rule.kind, Kind.needs] <;> grind

namespace PropertyClass

/-- The class has been given the attribute. -/
def given (c : PropertyClass) : Attribute → Bool
  | .rule => c.rule.isSome
  | .primitive => c.primitive.isSome
  | .sentinel => c.sentinel.isSome
  | .key => c.key.isSome
  | .kind => c.kind.isSome

@[simp] theorem given_assign (c : PropertyClass) (a : Assignment) (b : Attribute) :
    (c.assign a).given b = (decide (a.target = b) || c.given b) := by
  cases a <;> cases b <;> simp [assign, given, Assignment.target]

theorem key_assign {c : PropertyClass} {a : Assignment} (h : a.target ≠ .key) :
    (c.assign a).key = c.key := by
  cases a <;> simp_all [assign, Assignment.target]

theorem kind_assign {c : PropertyClass} {a : Assignment} (h : a.target ≠ .kind) :
    (c.assign a).kind = c.kind := by
  cases a <;> simp_all [assign, Assignment.target]

/-- Both classes were made with the same name, members and traits. -/
structure SameBody (c d : PropertyClass) : Prop where
  name : d.name = c.name
  declared : d.declared = c.declared
  traits : d.traits = c.traits

theorem SameBody.refl (c : PropertyClass) : c.SameBody c := ⟨rfl, rfl, rfl⟩

theorem SameBody.trans {a b c : PropertyClass} (hab : a.SameBody b) (hbc : b.SameBody c) :
    a.SameBody c :=
  ⟨hbc.name.trans hab.name, hbc.declared.trans hab.declared, hbc.traits.trans hab.traits⟩

theorem SameBody.members {c d : PropertyClass} (h : c.SameBody d) : d.members = c.members := by
  rw [PropertyClass.members, h.declared, PropertyClass.members]

theorem SameBody.hider? {c d : PropertyClass} (h : c.SameBody d) : d.hider? = c.hider? := by
  funext a
  rw [PropertyClass.hider?, member?, h.members, h.declared]
  rfl

/-- No member has the name of an attribute. -/
def Unhidden (c : PropertyClass) : Prop :=
  ∀ m ∈ c.declared.getD [], ∀ a : Attribute, m.name ≠ a.name

instance (c : PropertyClass) : Decidable c.Unhidden :=
  decidable_of_iff (∀ m ∈ c.declared.getD [],
      ∀ a ∈ [Attribute.rule, .primitive, .sentinel, .key, .kind], m.name ≠ a.name) <| by
    refine forall₂_congr fun m _ => ⟨fun h a => h a (by cases a <;> simp), fun h a _ => h a⟩

theorem Unhidden.hider? {c : PropertyClass} (h : c.Unhidden) (a : Attribute) :
    c.hider? a = none := by
  have hfind : (c.declared.getD []).find? (fun m => m.name == a.name) = none :=
    List.find?_eq_none.2 fun m hm => by simpa using h m hm a
  rw [PropertyClass.hider?, member?, hfind]
  rfl

theorem sameBody_assign (c : PropertyClass) (a : Assignment) : c.SameBody (c.assign a) := by
  cases a <;> exact ⟨rfl, rfl, rfl⟩

theorem sameBody_foldl_assign (c : PropertyClass) (as : List Assignment) :
    c.SameBody (as.foldl assign c) := by
  induction as generalizing c with
  | nil => exact .refl c
  | cons a rest ih => exact (sameBody_assign c a).trans (ih (c.assign a))

/-- What is given in the end was given before, or is the target of an assignment. -/
theorem given_foldl_assign (c : PropertyClass) (as : List Assignment) (b : Attribute) :
    (as.foldl assign c).given b ↔ b ∈ as.map Assignment.target ∨ c.given b := by
  induction as generalizing c with
  | nil => simp
  | cons a rest ih =>
    rw [List.foldl_cons, ih, given_assign, List.map_cons, List.mem_cons, Bool.or_eq_true,
      decide_eq_true_eq]
    grind

/-- A property that every assignment keeps is kept by as many of them as go through. -/
theorem assignAll_induction {P : PropertyClass → Prop} {as : List Assignment}
    (step : ∀ d a, a ∈ as → P d → P (d.assign a)) {c : PropertyClass} (h : P c) :
    P (c.assignAll as).1 := by
  induction as generalizing c with
  | nil => exact h
  | cons a rest ih =>
    rw [assignAll]
    split
    · exact h
    · exact ih (fun d b hb => step d b (List.mem_cons_of_mem a hb))
        (step c a List.mem_cons_self h)

theorem assignAll_eq_ok_iff {c d : PropertyClass} {as : List Assignment} :
    c.assignAll as = (d, .ok ()) ↔
      (∀ a ∈ as, c.hider? a.target = none) ∧ d = as.foldl assign c := by
  constructor
  · intro h
    have hfree : ∀ a ∈ as, c.hider? a.target = none := by
      induction as generalizing c with
      | nil => simp
      | cons a rest ih =>
        rw [assignAll] at h
        split at h
        · cases h
        · rename_i ha
          have hrest := ih h
          rw [hider?_assign] at hrest
          exact List.forall_mem_cons.2 ⟨by simpa using ha, hrest⟩
    rw [assignAll_of_free hfree] at h
    exact ⟨hfree, (congrArg Prod.fst h).symm⟩
  · rintro ⟨hfree, rfl⟩
    exact assignAll_of_free hfree

/-- A declaration succeeds when nothing objects to its rule or its key, and all places are free. -/
theorem declare_eq_ok_iff {c d : PropertyClass} {r : Rule} {key : String}
    {refused : Option Failure} :
    c.declare r key refused = (d, .ok ()) ↔
      c.objection r = none ∧ refused = none ∧
        (∀ a ∈ r.attributes key, c.hider? a.target = none) ∧
        d = (r.attributes key).foldl assign c := by
  rw [Rule.attributes, List.foldl_append, List.forall_mem_append]
  unfold declare
  cases hobj : c.objection r with
  | some f => simp
  | none =>
    rcases hins : c.install r with ⟨e, f | ⟨⟩⟩
    · have hnot : ¬ ∀ a ∈ r.assignments, c.hider? a.target = none := by
        intro hfree
        rw [install, assignAll_of_free hfree] at hins
        cases hins
      simp [hnot]
    · obtain ⟨hfree, rfl⟩ := assignAll_eq_ok_iff.1 hins
      have hbody := sameBody_foldl_assign c r.assignments
      cases refused with
      | some f => simp
      | none =>
        -- The places of the key and the kind are those of the class before its rule was given.
        change enter _ _ _ = _ ↔ _
        rw [enter, assignAll_eq_ok_iff, hbody.hider?]
        simp only [true_and]
        exact ⟨fun h => ⟨⟨hfree, h.1⟩, h.2⟩, fun h => ⟨h.1.2, h.2⟩⟩

/-- The attributes of the class belong to a rule, and nothing objects to the rule. -/
structure Follows (c : PropertyClass) (r : Rule) : Prop where
  rule : c.rule = some r
  kind : c.kind = some r.kind
  primitive : ∀ p, r.primitive? = some p → c.primitive = some p
  sentinel : ∀ s, r.sentinel? = some s → c.sentinel = some s
  objection : c.objection r = none

theorem follows_of_declare {c d : PropertyClass} {r : Rule} {key : String}
    {refused : Option Failure} (h : c.declare r key refused = (d, .ok ())) : d.Follows r := by
  obtain ⟨hobj, -, -, rfl⟩ := declare_eq_ok_iff.1 h
  cases r with
  | enumeration => exact ⟨rfl, rfl, by simp [Rule.primitive?], by simp [Rule.sentinel?], hobj⟩
  | scalar p => exact ⟨rfl, rfl, fun _ h => h, by simp [Rule.sentinel?], hobj⟩
  | optional p s => exact ⟨rfl, rfl, fun _ h => h, fun _ h => h, hobj⟩

/-- What a declaration that fails can have done to the class. The key changes only where no kind
can be given. -/
structure Altered (c d : PropertyClass) : Prop where
  body : c.SameBody d
  kind : d.kind = c.kind
  key : c.hider? .kind = none → d.key = c.key
  given : ∀ a, c.given a → d.given a

theorem Altered.refl (c : PropertyClass) : c.Altered c := ⟨.refl c, rfl, fun _ => rfl, fun _ => id⟩

theorem altered_install (c : PropertyClass) (r : Rule) : c.Altered (c.install r).1 := by
  refine assignAll_induction ?_ (Altered.refl c)
  intro d a ha h
  obtain ⟨hkey, hkind⟩ := Rule.target_of_mem_assignments ha
  refine ⟨h.body.trans (sameBody_assign d a), (kind_assign hkind).trans h.kind, ?_, ?_⟩
  · exact fun hfree => (key_assign hkey).trans (h.key hfree)
  · intro b hb
    rw [given_assign, h.given b hb, Bool.or_true]

theorem altered_enter {c d : PropertyClass} {key : String} {k : Kind} {f : Failure}
    (h : c.enter key k = (d, .error f)) : c.Altered d := by
  rw [enter, assignAll] at h
  split at h
  · cases h
    exact .refl c
  · rw [assignAll, hider?_assign] at h
    split at h
    · rename_i hkind
      cases h
      refine ⟨sameBody_assign c _, rfl, ?_, ?_⟩
      · intro hfree
        rw [show Assignment.target (.kind k) = .kind from rfl, hfree] at hkind
        cases hkind
      · intro a ha
        rw [given_assign, ha, Bool.or_true]
    · cases h

theorem Altered.trans {a b c : PropertyClass} (hab : a.Altered b) (hbc : b.Altered c) :
    a.Altered c where
  body := hab.body.trans hbc.body
  kind := hbc.kind.trans hab.kind
  key h := (hbc.key (by rwa [hab.body.hider?])).trans (hab.key h)
  given x hx := hbc.given x (hab.given x hx)

theorem altered_of_declare {c d : PropertyClass} {r : Rule} {key : String}
    {refused : Option Failure} {f : Failure} (h : c.declare r key refused = (d, .error f)) :
    c.Altered d := by
  have hins := altered_install c r
  unfold declare at h
  split at h
  · cases h
    exact .refl c
  · split at h <;> rename_i heq
    · rw [heq] at hins
      cases h
      exact hins
    · rw [heq] at hins
      cases h
      exact hins
    · rw [heq] at hins
      exact hins.trans (altered_enter h)

end PropertyClass

end EditorConfig

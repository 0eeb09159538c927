import EditorConfig.Session.History
import EditorConfig.Proofs.Standards

/-! Sessions that answer alike. Their catalogs have the same keys, and classes that are used alike.
Whoever asks about registered properties cannot tell such sessions apart, and no command makes them
differ in more. -/

namespace EditorConfig

namespace Term

variable {a b : Catalog}

mutual

/-- The value of a term depends on the literals of the catalog only. -/
theorem eval_congr (h : a.literal = b.literal) : ∀ t : Term, t.eval a = t.eval b
  | .given v => rfl
  | .literal enumeration name => by rw [eval, eval, h]
  | .list items => by rw [eval, eval, evalItems_congr h items]
  | .mapping pairs => by rw [eval, eval, evalPairs_congr h pairs]

theorem evalItems_congr (h : a.literal = b.literal) :
    ∀ items : List Term, evalItems a items = evalItems b items
  | [] => rfl
  | t :: rest => by rw [evalItems, evalItems, eval_congr h t, evalItems_congr h rest]

theorem evalPairs_congr (h : a.literal = b.literal) :
    ∀ pairs : List (Term × Term), evalPairs a pairs = evalPairs b pairs
  | [] => rfl
  | (k, t) :: rest => by
    rw [evalPairs, evalPairs, eval_congr h k, eval_congr h t, evalPairs_congr h rest]

end

end Term

namespace Catalog

/-- The catalogs have the same registry, and classes that are used alike. -/
structure Alike (a b : Catalog) : Prop where
  registry : b.registry = a.registry
  classes : ∀ ref, (a.class? ref = none ∧ b.class? ref = none) ∨
    ∃ c d, a.class? ref = some c ∧ b.class? ref = some d ∧ c.SameUse d

variable {a b : Catalog}

theorem Alike.refl (a : Catalog) : a.Alike a where
  registry := rfl
  classes ref := by
    cases hc : a.class? ref with
    | none => exact .inl ⟨rfl, rfl⟩
    | some c => exact .inr ⟨c, c, rfl, rfl, .refl c⟩

/-- Catalogs stay alike when classes used alike are put in the same place. -/
theorem Alike.update (h : a.Alike b) {ref : ClassRef} {c d c' d' : PropertyClass}
    (hc : a.class? ref = some c) (hd : b.class? ref = some d) (hcd : c'.SameUse d') :
    (a.update ref c').Alike (b.update ref d') where
  registry := by rw [registry_update, registry_update, h.registry]
  classes other := by
    by_cases href : other = ref
    · rw [href, class?_update_self hc, class?_update_self hd]
      exact .inr ⟨c', d', rfl, rfl, hcd⟩
    · rw [class?_update_of_ne href, class?_update_of_ne href]
      exact h.classes other

theorem alike_update {ref : ClassRef} {c d : PropertyClass} (hc : a.class? ref = some c)
    (hcd : c.SameUse d) : a.Alike (a.update ref d) := by
  have hupdate := (Alike.refl a).update hc hc hcd
  rwa [update_self hc] at hupdate

theorem Alike.register (h : a.Alike b) (key : String) (ref : ClassRef) :
    (a.register key ref).Alike (b.register key ref) where
  registry := by rw [Catalog.register, Catalog.register, h.registry]
  classes other := by
    rw [class?_register, class?_register]
    exact h.classes other

theorem Alike.property? (h : a.Alike b) (key : String) :
    (a.property? key = none ∧ b.property? key = none) ∨
      ∃ c d, a.property? key = some c ∧ b.property? key = some d ∧ c.SameUse d := by
  have href : b.ref? key = a.ref? key := by rw [ref?, ref?, h.registry]
  rw [Catalog.property?, Catalog.property?, href]
  cases a.ref? key with
  | none => exact .inl ⟨rfl, rfl⟩
  | some ref => exact h.classes ref

theorem Alike.knows (h : a.Alike b) : b.knows = a.knows := by
  funext key
  rw [Catalog.knows, Catalog.knows]
  obtain ⟨hc, hd⟩ | ⟨c, d, hc, hd, -⟩ := h.property? key <;> rw [hc, hd]
  rfl

theorem Alike.names (h : a.Alike b) :
    b.custom.map PropertyClass.name = a.custom.map PropertyClass.name := by
  refine List.ext_getElem? fun j => ?_
  rw [List.getElem?_map, List.getElem?_map]
  change (b.class? (.custom j)).map PropertyClass.name = (a.class? (.custom j)).map _
  obtain ⟨hc, hd⟩ | ⟨c, d, hc, hd, hcd⟩ := h.classes (.custom j) <;> rw [hc, hd]
  exact congrArg some hcd.body.name

theorem Alike.length (h : a.Alike b) : b.custom.length = a.custom.length := by
  simpa using congrArg List.length h.names

/-- Classes are found by the names of all classes. -/
theorem named?_eq (cat : Catalog) (name : String) :
    cat.named? name =
      match ((cat.custom.map PropertyClass.name).zipIdx.reverse.find? fun e => e.1 == name) with
      | some e => some (.custom e.2)
      | none => (StandardProperty.all.find? fun p => p.className == name).map .standard := by
  simp only [named?, List.zipIdx_map, ← List.map_reverse, List.find?_map, Function.comp_def,
    Prod.map_fst]
  cases cat.custom.zipIdx.reverse.find? fun e => e.1.name == name <;> rfl

theorem Alike.named? (h : a.Alike b) : b.named? = a.named? := by
  funext name
  rw [named?_eq, named?_eq, h.names]

theorem Alike.literal (h : a.Alike b) : b.literal = a.literal := by
  funext enumeration name
  rw [Catalog.literal, Catalog.literal, h.named?]
  cases a.named? enumeration with
  | none => rfl
  | some ref =>
    simp only [classOf]
    obtain ⟨hc, hd⟩ | ⟨c, d, hc, hd, hcd⟩ := h.classes ref <;> rw [hc, hd]
    have hmember : d.member? name = c.member? name := by
      rw [PropertyClass.member?, PropertyClass.member?, hcd.body.declared, hcd.body.members]
    simp only [bind, Except.bind, hcd.body.declared, hcd.body.name, hmember]

theorem Alike.eval (h : a.Alike b) (t : Term) : t.eval b = t.eval a :=
  Term.eval_congr h.literal t

/-- Both catalogs take an entry alike. -/
theorem Alike.take (h : a.Alike b) (ha : a.Reachable) : b.take = a.take := by
  funext p key raw
  rw [Catalog.take, Catalog.take]
  obtain ⟨hc, hd⟩ | ⟨c, d, hc, hd, hcd⟩ := h.property? key <;> rw [hc, hd]
  simp only [hcd.parse_eq (ha.equipped hc)]

theorem Alike.takeAll (h : a.Alike b) (ha : a.Reachable) : b.takeAll = a.takeAll := by
  funext p entries
  induction entries generalizing p with
  | nil => rfl
  | cons e rest ih =>
    rw [Catalog.takeAll, Catalog.takeAll, h.take ha]
    cases a.take p e.1 e.2 with
    | error f => rfl
    | ok next => exact ih next

theorem Alike.resolve (h : a.Alike b) (ha : a.Reachable) (hb : b.Reachable) :
    b.resolve = a.resolve := by
  have hconclude : b.conclude = a.conclude := by
    funext strict p
    rw [conclude, conclude, Settings.ofMapping_congr (hb.standard_eq ha)]
  have hproperties : b.resolveProperties = a.resolveProperties := by
    funext strict properties
    rw [resolveProperties, resolveProperties, h.takeAll ha, hconclude]
  funext strict raw
  rw [Catalog.resolve, Catalog.resolve, hproperties]

/-- A change ends alike in both catalogs, and leaves them alike. -/
theorem Alike.apply (h : a.Alike b) (change : Change) :
    (b.apply change).2 = (a.apply change).2 ∧ (a.apply change).1.Alike (b.apply change).1 := by
  cases change with
  | newClass name literals =>
    rw [Catalog.apply, Catalog.apply, newClass, newClass, h.length]
    cases PropertyClass.create (.custom a.custom.length) name literals with
    | error f => exact ⟨rfl, h⟩
    | ok c =>
      refine ⟨rfl, h.registry, fun ref => ?_⟩
      by_cases href : ref = .custom a.custom.length
      · have hnext := class?_made_self b c
        rw [h.length] at hnext
        rw [href, class?_made_self, hnext]
        exact .inr ⟨c, c, rfl, rfl, .refl c⟩
      · rw [class?_made_of_ne a c href, class?_made_of_ne b c (h.length ▸ href)]
        exact h.classes ref
  | declare ref r key =>
    have hkey : b.keyObjection key = a.keyObjection key := by
      rw [keyObjection, keyObjection, h.knows]
    rw [Catalog.apply, Catalog.apply, Catalog.declare, Catalog.declare, hkey]
    obtain ⟨hc, hd⟩ | ⟨c, d, hc, hd, hcd⟩ := h.classes ref <;> rw [hc, hd]
    · exact ⟨rfl, h⟩
    · obtain ⟨hresult, hdeclared⟩ := hcd.declare r key (a.keyObjection key)
      simp only
      generalize c.declare r key (a.keyObjection key) = x at hresult hdeclared
      generalize d.declare r key (a.keyObjection key) = y at hresult hdeclared
      obtain ⟨c', result⟩ := x
      obtain ⟨d', rfl⟩ : ∃ d', y = (d', result) := ⟨y.1, Prod.ext rfl hresult⟩
      cases result with
      | error f => exact ⟨rfl, h.update hc hd hdeclared⟩
      | ok => exact ⟨rfl, (h.update hc hd hdeclared).register key ref⟩

end Catalog

/-- The property is given by its key, or is registered. -/
def PropertyRef.Registered (cat : Catalog) : PropertyRef → Prop
  | .key _ => True
  | .named ref => ∃ key, cat.ref? key = some ref

/-- The property that is asked about. -/
def Query.property? : Query → Option PropertyRef
  | .parse prop _ | .render prop _ | .describe prop | .get _ prop | .getOr _ prop _
  | .field _ prop => some prop
  | _ => none

/-- The property that the command is about is given by its key, or is registered. -/
def Command.Registered (cat : Catalog) : Command → Prop
  | .ask q => ∀ prop ∈ q.property?, prop.Registered cat
  | _ => True

namespace Catalog

variable {a b : Catalog}

/-- A registered property is found in both catalogs, as classes that are used alike, or in
neither. -/
theorem Alike.find (h : a.Alike b) (ha : a.Reachable) {prop : PropertyRef}
    (hp : prop.Registered a) :
    (∃ f, a.find prop = .error f ∧ b.find prop = .error f) ∨
      ∃ c d, a.find prop = .ok c ∧ b.find prop = .ok d ∧ c.SameUse d ∧ c.Equipped := by
  cases prop with
  | key key =>
    rw [Catalog.find, Catalog.find, property, property]
    obtain ⟨hc, hd⟩ | ⟨c, d, hc, hd, hcd⟩ := h.property? key <;> rw [hc, hd]
    · exact .inl ⟨_, rfl, rfl⟩
    · exact .inr ⟨c, d, rfl, rfl, hcd, ha.equipped hc⟩
  | named ref =>
    obtain ⟨key, hr⟩ := hp
    obtain ⟨e, he, hkey⟩ := ha.sound.property?_of_ref? hr
    rw [Catalog.find, Catalog.find, classOf, classOf]
    obtain ⟨hc, -⟩ | ⟨c, d, hc, hd, hcd⟩ := h.classes ref
    · rw [he] at hc
      cases hc
    · obtain rfl : e = c := Option.some.inj (he.symm.trans hc)
      rw [hc, hd]
      exact .inr ⟨e, d, rfl, rfl, hcd, ha.equipped hkey⟩

end Catalog

namespace Session

/-- The sessions have the same settings, and catalogs that are alike. -/
structure Alike (s t : Session) : Prop where
  saved : t.saved = s.saved
  catalog : s.catalog.Alike t.catalog
  reachable : s.catalog.Reachable
  reachable_other : t.catalog.Reachable

variable {s t : Session}

theorem Alike.standard (h : s.Alike t) : t.catalog.standard = s.catalog.standard :=
  h.reachable_other.standard_eq h.reachable

theorem Alike.find (h : s.Alike t) {prop : PropertyRef} (hp : prop.Registered s.catalog) :
    (∃ f, s.catalog.find prop = .error f ∧ t.catalog.find prop = .error f) ∨
      ∃ c d, s.catalog.find prop = .ok c ∧ t.catalog.find prop = .ok d ∧ c.SameUse d ∧
        c.Equipped :=
  h.catalog.find h.reachable hp

theorem Alike.saved? (h : s.Alike t) (name : String) : t.saved? name = s.saved? name := by
  rw [Session.saved?, Session.saved?, h.saved]

theorem Alike.mapping (h : s.Alike t) (pairs : List (Term × Term)) :
    t.mapping pairs = s.mapping pairs := by
  rw [Session.mapping, Session.mapping, Term.entries, Term.entries,
    Term.evalPairs_congr h.catalog.literal]

theorem Alike.view (h : s.Alike t) (dump : Yaml.Dump) (u : Settings) :
    u.view dump t.catalog = u.view dump s.catalog :=
  Settings.view_congr h.reachable_other h.reachable dump u

theorem Alike.view_instance (h : s.Alike t) (dump : Yaml.Dump) (x : Instance) :
    x.view dump t.catalog = x.view dump s.catalog := by
  simp only [Instance.view, h.view]

theorem Alike.parse (h : s.Alike t) {prop : PropertyRef} (hp : prop.Registered s.catalog)
    (raw : String) : t.parse prop raw = s.parse prop raw := by
  rw [Session.parse, Session.parse]
  obtain ⟨f, hs, ht⟩ | ⟨c, d, hs, ht, hcd, hc⟩ := h.find hp <;> rw [hs, ht]
  · rfl
  · have hrender : t.catalog.render d = s.catalog.render c := funext (hcd.render_eq hc _ _)
    simp only [bind, Except.bind, hcd.parse_eq hc, hrender]

theorem Alike.get (h : s.Alike t) {prop : PropertyRef} (hp : prop.Registered s.catalog)
    (entries : List (Value × Value)) :
    t.catalog.get entries prop = s.catalog.get entries prop := by
  rw [Catalog.get, Catalog.get]
  obtain ⟨f, hs, ht⟩ | ⟨c, d, hs, ht, hcd, hc⟩ := h.find hp <;> rw [hs, ht]
  simp only [bind, Except.bind, hcd.lookup_eq hc]

/-- Questions about registered properties have the same answers. -/
theorem Alike.answer (h : s.Alike t) (host : Host) {q : Query}
    (hq : ∀ prop ∈ q.property?, prop.Registered s.catalog) :
    t.answer host q = s.answer host q := by
  cases q with
  | parsePrimitive p raw => rfl
  | renderPrimitive p v => rw [Session.answer, Session.answer, h.catalog.eval]
  | parse prop raw => exact h.parse (hq prop rfl) raw
  | render prop v =>
    rw [Session.answer, Session.answer, h.catalog.eval]
    obtain ⟨f, hs, ht⟩ | ⟨c, d, hs, ht, hcd, hc⟩ := h.find (hq prop rfl) <;> rw [hs, ht]
    · rfl
    · have hrender : t.catalog.render d = s.catalog.render c := funext (hcd.render_eq hc _ _)
      simp only [bind, Except.bind, hrender]
  | describe prop =>
    rw [Session.answer, Session.answer]
    obtain ⟨f, hs, ht⟩ | ⟨c, d, hs, ht, hcd, hc⟩ := h.find (hq prop rfl) <;> rw [hs, ht]
    simp only [bind, Except.bind, hcd.describe_eq hc]
  | listing =>
    rw [Session.answer, Session.answer, Session.listing, Session.listing, h.standard]
  | knows key => rw [Session.answer, Session.answer, h.catalog.knows]
  | className key =>
    have hp : PropertyRef.Registered s.catalog (.key key) := trivial
    rw [Session.answer, Session.answer]
    obtain ⟨f, hs, ht⟩ | ⟨c, d, hs, ht, hcd, -⟩ := h.find hp <;>
      rw [Catalog.find] at hs ht <;> rw [hs, ht]
    simp only [bind, Except.bind, hcd.body.name]
  | literal enumeration name =>
    rw [Session.answer, Session.answer, Session.literal, Session.literal,
      Catalog.standardLiteral, Catalog.standardLiteral, h.standard]
  | get raw prop =>
    rw [Session.answer, Session.answer, h.mapping]
    simp only [h.get (hq prop rfl)]
  | getOr raw prop default =>
    rw [Session.answer, Session.answer, h.mapping, h.catalog.eval]
    simp only [Catalog.getOr, h.get (hq prop rfl)]
  | validate raw =>
    rw [Session.answer, Session.answer, h.catalog.eval]
    simp only [Catalog.validate_congr h.standard]
  | view name =>
    rw [Session.answer, Session.answer, h.saved?]
    simp only [h.view_instance]
  | field name prop =>
    rw [Session.answer, Session.answer, h.saved?]
    obtain ⟨f, hs, ht⟩ | ⟨c, d, hs, ht, hcd, hc⟩ := h.find (hq prop rfl) <;> rw [hs, ht]
    simp only [bind, Except.bind, hcd.require_key_eq hc]

theorem Alike.save (h : s.Alike t) (name : Option String) (x : Instance) :
    (s.save name x).Alike (t.save name x) := by
  cases name with
  | none => exact h
  | some name =>
    exact ⟨congrArg ((name, x) :: ·) h.saved, h.catalog, h.reachable, h.reachable_other⟩

/-- A command about registered properties is answered alike, and leaves the sessions alike. -/
theorem Alike.step (h : s.Alike t) (host : Host) {command : Command} (hcustom : command.Custom)
    (hc : command.Registered s.catalog) :
    (t.step host command).2 = (s.step host command).2 ∧
      (s.step host command).1.Alike (t.step host command).1 := by
  cases command with
  | ask q =>
    rw [Session.step, Session.step, h.answer host hc]
    exact ⟨rfl, h⟩
  | resolve strict raw name =>
    rw [Session.step, Session.step, Session.resolve, Session.resolve, h.catalog.eval]
    cases raw.eval s.catalog with
    | error f => exact ⟨rfl, h⟩
    | ok v =>
      simp only [h.catalog.resolve h.reachable h.reachable_other, h.view]
      cases (s.catalog.resolve strict v).result with
      | error f => exact ⟨rfl, h⟩
      | ok r => exact ⟨rfl, h.save name (.ofSettings r.settings)⟩
  | settings data name =>
    have hbuilt : Settings.ofMapping t.catalog = Settings.ofMapping s.catalog :=
      funext (Settings.ofMapping_congr h.standard)
    rw [Session.step, Session.step, build, build, h.mapping]
    simp only [hbuilt, h.view]
    cases s.mapping data >>= Settings.ofMapping s.catalog with
    | error f => exact ⟨rfl, h⟩
    | ok u => exact ⟨rfl, h.save name (.ofSettings u)⟩
  | assign name field v =>
    rw [Session.step, Session.step, Session.assign, Session.assign, h.saved?, h.catalog.eval]
    cases (do host.assign (← s.saved? name) field (← v.eval s.catalog)) with
    | error f => exact ⟨rfl, h⟩
    | ok x => exact ⟨rfl, h.save (some name) x⟩
  | change c =>
    obtain ⟨hresult, hcatalog⟩ := h.catalog.apply c
    rw [Session.step, Session.step, Session.change, Session.change]
    exact ⟨by simp only [hresult], h.saved, hcatalog, .step h.reachable hcustom,
      .step h.reachable_other hcustom⟩

/-- The answers to commands that are given one after another. -/
def answers (s : Session) (host : Host) : List Command → List Answer
  | [] => []
  | command :: rest => (s.step host command).2 :: (s.step host command).1.answers host rest

/-- The commands are custom, and about properties that are registered when they are given. -/
inductive Regards (host : Host) : Session → List Command → Prop
  | nil {s : Session} : Regards host s []
  | cons {s : Session} {command : Command} {rest : List Command} :
      command.Custom → command.Registered s.catalog → Regards host (s.step host command).1 rest →
      Regards host s (command :: rest)

/-- Sessions that are alike answer alike ever after. -/
theorem Alike.answers (h : s.Alike t) {host : Host} {commands : List Command}
    (hr : Regards host s commands) : t.answers host commands = s.answers host commands := by
  induction hr generalizing t with
  | nil => rfl
  | cons hcustom hc _ ih =>
    obtain ⟨hanswer, hnext⟩ := h.step host hcustom hc
    rw [Session.answers, Session.answers, hanswer, ih hnext]

end Session

end EditorConfig

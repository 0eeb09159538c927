import EditorConfig.Property.Standard

/-! The catalog of property classes: the standard ones, those made later, and the registry of keys.
A class may be registered under several keys; its own key is then the latest one. -/

namespace EditorConfig

structure Catalog where
  standard : StandardProperty → PropertyClass
  /-- The classes made later, in the order of their making. -/
  custom : List PropertyClass
  /-- Keys with their classes, in the order of registration. -/
  registry : List (String × ClassRef)

namespace Catalog

/-- The standard properties alone. -/
def initial : Catalog where
  standard := StandardProperty.propertyClass
  custom := []
  registry := StandardProperty.all.map fun p => (p.key, .standard p)

def class? (cat : Catalog) : ClassRef → Option PropertyClass
  | .standard p => some (cat.standard p)
  | .custom i => cat.custom[i]?

/-- The class, or the failure of naming none. -/
def classOf (cat : Catalog) (ref : ClassRef) : Except Failure PropertyClass :=
  match cat.class? ref with
  | some c => .ok c
  | none => .error .noSuchClass

/-- Replaces a class. -/
def update (cat : Catalog) (ref : ClassRef) (c : PropertyClass) : Catalog :=
  match ref with
  | .standard p => { cat with standard := fun q => if q = p then c else cat.standard q }
  | .custom i => { cat with custom := cat.custom.set i c }

/-- Adds a key to the registry. -/
def register (cat : Catalog) (key : String) (ref : ClassRef) : Catalog :=
  { cat with registry := cat.registry ++ [(key, ref)] }

/-- The class registered under a key. -/
def ref? (cat : Catalog) (key : String) : Option ClassRef := cat.registry.lookup key

def property? (cat : Catalog) (key : String) : Option PropertyClass :=
  (cat.ref? key).bind cat.class?

def knows (cat : Catalog) (key : String) : Bool := (cat.property? key).isSome

/-- The property of a key, or the failure of finding none. -/
def property (cat : Catalog) (key : String) : Except Failure PropertyClass :=
  match cat.property? key with
  | some c => .ok c
  | none => .error (.unknownProperty key)

/-- The latest class of a name. -/
def named? (cat : Catalog) (name : String) : Option ClassRef :=
  match cat.custom.zipIdx.reverse.find? fun e => e.1.name == name with
  | some e => some (.custom e.2)
  | none => (StandardProperty.all.find? fun p => p.className == name).map .standard

/-- The value that a literal names: the class of the literal and its name there. The explicit
absence of a value is a literal of its own, but a class of the same name hides it. -/
def literal (cat : Catalog) (enumeration name : String) : Except Failure Value :=
  match cat.named? enumeration with
  | some ref => do
    let c ← cat.classOf ref
    match c.declared, c.member? name with
    | none, _ => .error (.withoutLiterals c.name)
    | some _, some m => return .member m
    | some _, none => .error (.noSuchLiteral enumeration name)
  | none =>
    if enumeration = "Explicit" ∧ name = "NONE" then .ok .explicitNone
    else .error (.noSuchLiteral enumeration name)

/-- The literal of a standard property, whatever other classes have its name. -/
def standardLiteral (cat : Catalog) (enumeration name : String) : Except Failure Value :=
  match (StandardProperty.all.find? fun p => p.className == enumeration).bind fun p =>
      (cat.standard p).member? name with
  | some m => .ok (.member m)
  | none =>
    if enumeration = "Explicit" ∧ name = "NONE" then .ok .explicitNone
    else .error (.noSuchLiteral enumeration name)

@[simp] theorem class?_update_self {cat : Catalog} {ref : ClassRef} {c d : PropertyClass}
    (h : cat.class? ref = some d) : (cat.update ref c).class? ref = some c := by
  cases ref with
  | standard p => simp [update, class?]
  | custom i =>
    obtain ⟨hi, -⟩ := List.getElem?_eq_some_iff.1 h
    simp [update, class?, hi]

@[simp] theorem class?_update_of_ne {cat : Catalog} {ref other : ClassRef} {c : PropertyClass}
    (h : other ≠ ref) : (cat.update ref c).class? other = cat.class? other := by
  cases ref <;> cases other <;> simp_all [update, class?]
  exact List.getElem?_set_ne (Ne.symm h)

theorem update_self {cat : Catalog} {ref : ClassRef} {c : PropertyClass}
    (h : cat.class? ref = some c) : cat.update ref c = cat := by
  cases ref with
  | standard p =>
    have hs : (fun q => if q = p then c else cat.standard q) = cat.standard := by
      funext q
      by_cases hq : q = p
      · subst hq
        simpa [class?] using (Option.some.inj h).symm
      · simp [hq]
    rw [update, hs]
  | custom i =>
    obtain ⟨hi, hc⟩ := List.getElem?_eq_some_iff.1 h
    rw [update, ← hc, List.set_getElem_self]

@[simp] theorem registry_update (cat : Catalog) (ref : ClassRef) (c : PropertyClass) :
    (cat.update ref c).registry = cat.registry := by
  cases ref <;> rfl

@[simp] theorem class?_register (cat : Catalog) (key : String) (ref : ClassRef) :
    (cat.register key ref).class? = cat.class? := by
  funext r
  cases r <;> rfl

end Catalog

end EditorConfig

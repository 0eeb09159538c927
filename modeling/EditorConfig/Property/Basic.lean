import EditorConfig.Property.Rule

/-! Property classes. A class has a name and, if it is an enumeration, members and traits; its other
attributes are given to it by declarations and are missing before. They are given one by one, so a
class may have some and lack others. A member that has the name of an attribute takes its place: the
attribute cannot be given, and whoever reads it finds the member. A trait of that name is found as
well, but only as long as the attribute is not given. -/

namespace EditorConfig

structure PropertyClass where
  name : String
  /-- The members in the order of their declaration; a class without them is no enumeration. -/
  declared : Option (List Member)
  /-- What the class has besides members, with names. The members share it. -/
  traits : List (String × Trait) := []
  rule : Option Rule := none
  primitive : Option Primitive := none
  sentinel : Option String := none
  key : Option String := none
  kind : Option Kind := none

/-- What is in the place of an attribute that has not been given. -/
inductive Occupant
  | member (m : Member)
  | trait (t : Trait)
  deriving DecidableEq

/-- The failure of calling a member. -/
def Member.called (m : Member) : Failure := (m.obstacle? .call).getD (.notCallable m.enumeration)

/-- The failure of calling what is in the place of an attribute. -/
def Occupant.called : Occupant → Failure
  | member m => m.called
  | trait t => .notCallable t.typeName

namespace PropertyClass

/-- The members without aliases: a member is an alias of the first one with the same text. -/
def distinct : List Member → List Member
  | [] => []
  | m :: rest => m :: (distinct rest).filter fun n => n.text != m.text

def members (c : PropertyClass) : List Member := distinct (c.declared.getD [])

/-- The value as a member of the class. -/
def memberOf? (c : PropertyClass) : Value → Option Member
  | .member m => if m ∈ c.members then some m else none
  | _ => none

/-- The member declared under a name, an alias being the member that it stands for. -/
def member? (c : PropertyClass) (name : String) : Option Member := do
  let m ← (c.declared.getD []).find? fun m => m.name == name
  c.members.find? fun n => n.text == m.text

/-- The member in the place of an attribute. -/
def hider? (c : PropertyClass) (a : Attribute) : Option Member := c.member? a.name

/-- Reads what is in the place of an attribute. -/
def occupant (c : PropertyClass) (a : Attribute) : Except Failure Occupant :=
  match c.hider? a with
  | some m => do
    m.demand .access
    return .member m
  | none =>
    match c.traits.lookup a.name with
    | some t => .ok (.trait t)
    | none => .error (.undeclared a)

/-- The failure of calling an attribute that has not been given. -/
def lacks (c : PropertyClass) (a : Attribute) : Failure :=
  match c.occupant a with
  | .ok o => o.called
  | .error f => f

/-- The attribute, which is to be called, or the failure of calling it. -/
def require {α : Type} (c : PropertyClass) (a : Attribute) : Option α → Except Failure α
  | some x => .ok x
  | none => .error (c.lacks a)

/-- The kind; what is in its place is read as such, and is compared with the kinds. -/
def shownKind (c : PropertyClass) : Except Failure (Kind ⊕ Occupant) :=
  match c.kind with
  | some k => .ok (.inl k)
  | none => do
    match ← c.occupant .kind with
    | .member m =>
      m.demand .equality
      return .inr (.member m)
    | .trait (.text s) => return (Kind.ofName? s).elim (.inr (.trait (.text s))) .inl
    | .trait .slot => return .inr (.trait .slot)

/-- Tells a kind from another one once it is known not to be the same. -/
def distinguish : Kind ⊕ Occupant → Except Failure Unit
  | .inr (.member m) => m.demand .inequality
  | _ => .ok ()

/-- The sentinel; a text in its place is as good. -/
def shownSentinel (c : PropertyClass) : Except Failure String :=
  match c.sentinel with
  | some s => .ok s
  | none => do
    match ← c.occupant .sentinel with
    | .trait (.text s) => return s
    | _ => .error (.undeclared .sentinel)

/-- The name of the primitive; a member in its place has a name too. -/
def primitiveName (c : PropertyClass) : Except Failure String :=
  match c.primitive with
  | some p => .ok p.name
  | none => do
    match ← c.occupant .primitive with
    | .member m => m.givenName
    | .trait _ => .error (.undeclared .primitive)

/-- The value that a text stands for, if it is recognized. -/
def parse (c : PropertyClass) (s : String) : Except Failure (Option Value) := do
  let r ← c.require .rule c.rule
  r.parse c.members s

/-- Reads any value; only texts are recognized. -/
def read (c : PropertyClass) (v : Value) : Except Failure (Option Value) := do
  let r ← c.require .rule c.rule
  r.read c.members v

/-- The text that stands for a value of an enumeration. -/
def renderMember (c : PropertyClass) (v : Value) : Except Failure String :=
  match c.memberOf? v with
  | some m => m.givenText
  | none => .error (.showing v (.notMember c.name v))

/-- What a primitive renders with. -/
def renderer : String := "format"

/-- The failure of rendering with a member, which renders with what the class has for that. -/
def unrendered (c : PropertyClass) : Failure :=
  match c.member? renderer, c.traits.lookup renderer with
  | some m, _ => m.called
  | none, some (.text s) => .notCallable (Trait.text s).typeName
  | none, some .slot => .unfilled renderer
  | none, none => .undeclared .primitive

/-- The text that the primitive renders a value with. A text in its place is a template; `fill` says
how templates are filled. -/
def renderPrimitive (c : PropertyClass) (fill : String → Value → Except Failure String)
    (v : Value) : Except Failure String :=
  match c.primitive with
  | some p => p.render v
  | none => do
    match ← c.occupant .primitive with
    | .member _ => .error c.unrendered
    | .trait (.text template) => fill template v
    | .trait .slot => .error (.undeclared .primitive)

/-- The text that stands for a value. -/
def render (c : PropertyClass) (fill : String → Value → Except Failure String) (v : Value) :
    Except Failure String := do
  match ← c.shownKind, v with
  | .inl .enumeration, v => c.renderMember v
  | .inl .optional, .explicitNone => c.shownSentinel
  | kind, .explicitNone =>
    distinguish kind
    .error (.noExplicitNone c.name)
  | _, v => c.renderPrimitive fill v

end PropertyClass

end EditorConfig

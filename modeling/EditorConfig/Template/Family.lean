import EditorConfig.Catalog.Basic
import EditorConfig.Template.Part

/-! Enumerations as templates see them. What is found under a name at a member depends on its class:
members and given attributes come first, then what the member has for itself and the traits of the
class, and last what all members of all enumerations have. -/

namespace EditorConfig.Template

structure Family where
  type : TypeRef
  /-- The names that are declared, with their members. -/
  entries : List (String × Value)
  traits : List (String × Trait)
  /-- The attributes that declarations have given. -/
  given : List (String × Part)
  documentation : Value

namespace Family

/-- The name of a member and its text. -/
def label : Value → String × String
  | .member m => (m.name, m.text)
  | .explicitNone => ("NONE", Value.explicitText)
  | _ => ("", "")

/-- The enumeration of the explicit absence of a value. -/
def explicit : Family where
  type := .explicit
  entries := [("NONE", .explicitNone)]
  traits := []
  given := []
  documentation :=
    .text "Explicit absence of a value, written with a property's sentinel string."

/-- What all enumerations come from has no members. -/
def enumerations : Family where
  type := .enumerations
  entries := []
  traits := []
  given := []
  documentation := .null

/-- The routine that a rule installs. -/
def ruleRoutine (r : Rule) : String :=
  r.kind.name ++ "_property.<locals>.decorate.<locals>." ++ Attribute.rule.name

/-- The routine that tells the key. -/
def keyRoutine : String := "_register.<locals>.<lambda>"

/-- The attributes that a class has been given. -/
def givenOf (c : PropertyClass) (t : TypeRef) : List (String × Part) :=
  let text (a : Attribute) (s : String) : String × Part := (a.name, .value (.text s))
  (c.rule.map fun r => (Attribute.rule.name, .routine (.bound (ruleRoutine r) (.inr t)))).toList ++
    (c.primitive.map fun p => (Attribute.primitive.name, .primitive p)).toList ++
    (c.sentinel.map (text .sentinel)).toList ++
    (c.key.map fun _ => (Attribute.key.name, .routine (.bound keyRoutine (.inr t)))).toList ++
    (c.kind.map fun k => text .kind k.name).toList

/-- An enumeration of a catalog. -/
def ofClass (owner : ClassRef) (c : PropertyClass) : Family :=
  let t : TypeRef := .enumeration owner c.name
  { type := t
    entries := (c.declared.getD []).filterMap fun m =>
      (c.member? m.name).map fun n => (m.name, .member n)
    traits := c.traits
    given := givenOf c t
    documentation := match owner with
      | .standard p => .text ("The ``" ++ p.key ++ "`` property.")
      | .custom _ => .null }

/-- The members that are no aliases. -/
def distinct (f : Family) : List Value :=
  (f.entries.filter fun e => e.1 == (label e.2).1).map Prod.snd

/-- The members by their names. -/
def byName (f : Family) : List (Value × Value) := f.entries.map fun e => (.text e.1, e.2)

/-- The trait that tells the class its name with the names around it. It is no trait of members. -/
def nameTrait : String := "__qualname__"

def trait? (f : Family) (name : String) : Option Trait :=
  match f.traits.lookup name with
  | some (.text s) => if name = nameTrait then none else some (.text s)
  | t => t

/-- What a member has for itself. -/
def held (f : Family) (v : Value) : List (String × (Value ⊕ TypeRef)) :=
  let position := (f.distinct.takeWhile fun w => label w != label v).length
  [("_value_", .inl (.text (label v).2)), ("_name_", .inl (.text (label v).1)),
    ("__objclass__", .inr f.type), ("_sort_order_", .inl (.int position))]

/-- What all enumerations have under a name, for their members too. -/
def shared (f : Family) (name : String) : Option Part :=
  match name with
  | "_member_names_" => some (.value (.list (f.distinct.map fun v => .text (label v).1)))
  | "_member_map_" => some (.value (.mapping f.byName))
  | "_value2member_map_" =>
    some (.value (.mapping (f.distinct.map fun v => (.text (label v).2, v))))
  | "_member_type_" => some (.type (.common "object"))
  | "_unhashable_values_" => some (.value (.list []))
  | "_use_args_" => some (.value (.bool false))
  | "_value_repr_" => some (.value .null)
  | "_missing_" => some (.routine (.bound "Enum._missing_" (.inr f.type)))
  | "__doc__" => some (.value f.documentation)
  | "__hash__" =>
    if (f.trait? Hook.equality.name).isSome then some (.value .null) else none
  | _ => none

/-- Routines that belong to members. -/
def routines : List String :=
  ["__dir__", "__format__", "__hash__", "__init__", "__new__", "__reduce_ex__", "__repr__",
    "__str__", "_generate_next_value_"]

/-- Routines that belong to the class. -/
def typeRoutines : List String :=
  ["__bool__", "__call__", "__contains__", "__getattr__", "__getitem__", "__iter__", "__len__",
    "__reversed__", "_convert_", "_create_"]

/-- What every member has under a name. -/
def common (f : Family) (v : Value) (name : String) : Option Part :=
  match name with
  | "name" => some (.value (.text (label v).1))
  | "value" => some (.value (.text (label v).2))
  | "__class__" => some (.type f.type)
  | "__dict__" => some (.state ((f.held v).filter fun e => f.trait? e.1 != some .slot))
  | "__weakref__" => some (.value .null)
  | _ =>
    f.shared name <|>
      if routines.contains name then some (.routine (.bound ("Enum." ++ name) (.inl v))) else none

/-- What a member of some standard properties has besides. -/
def special : Value → String → Option Part
  | .member m, "sequence" => m.sequence?.map fun s => .value (.text s)
  | .member m, "codec" => m.codec?.map fun s => .value (.text s)
  | _, _ => none

/-- A member that is reached through its class. -/
def reached : Value → Except Failure Part
  | .member m => do
    m.demand .access
    return .value (.member m)
  | v => .ok (.value v)

/-- What is found under a name at a member. -/
def ofMember (f : Family) (v : Value) (name : String) : Except Failure Part :=
  let member? := if ["name", "value"].contains name then none else f.entries.lookup name
  match member?, f.given.lookup name, f.trait? name, (f.held v).lookup name with
  | some w, _, _, _ => reached w
  | none, some part, _, _ => .ok part
  | none, none, some .slot, none => .error (.unfilled name)
  | none, none, _, some x => .ok (.ofEither x)
  | none, none, some (.text s), none => .ok (.value (.text s))
  | none, none, none, none =>
    match special v name <|> f.common v name with
    | some part => .ok part
    | none => .error (.unfillable (.noSuchAttribute name))

/-- What is found under a name at the class. -/
def ofType (f : Family) (name : String) : Except Failure Part :=
  match f.entries.lookup name, f.given.lookup name, f.trait? name with
  | some w, _, _ => reached w
  | none, some part, _ => .ok part
  | none, none, some (.text s) => .ok (.value (.text s))
  | none, none, some .slot => .ok (.routine (.slot name f.type))
  | none, none, none =>
    match f.shared name with
    | some part => .ok part
    | none =>
      if typeRoutines.contains name then .ok (.routine (.bound ("EnumType." ++ name) (.inr f.type)))
      else .error (.unfillable (.noSuchAttribute name))

/-- The name of the class with the names around it. -/
def qualifiedName (f : Family) : String :=
  match f.traits.lookup nameTrait with
  | some (.text s) => s
  | _ => f.type.name

end Family

/-- The family of a type, for enumerations. -/
def TypeRef.family? (cat : Catalog) : TypeRef → Option Family
  | basic _ _ => none
  | enumeration owner _ => (cat.class? owner).map (Family.ofClass owner)
  | explicit => some .explicit
  | enumerations => some .enumerations

end EditorConfig.Template

import EditorConfig.Value.Hooked
import EditorConfig.Value.Mapping

/-! What templates show: the value that a template is filled with, and everything that is found on
the way from there. Types are found at values, and at types again; the class of a member is a type
too. -/

namespace EditorConfig

/-- A member by the names of its class and its own. -/
def Member.qualifiedName (m : Member) : Except Failure String := do
  m.demand .wording
  m.demand .classification
  return m.enumeration ++ "." ++ m.name

namespace Value

/-- The written form, for values that have one. -/
def writing (v : Value) : Except Failure String :=
  match v.unwritten? with
  | some f => .error f
  | none => .ok v.written

/-- The text of a value: texts are copied, and members go by their names. -/
def plain : Value → Except Failure String
  | text s => .ok s
  | explicitNone => .ok "Explicit.NONE"
  | member m => m.qualifiedName
  | v => v.writing

end Value

namespace Template

inductive TypeRef
  /-- A type that is no enumeration, with the place where it is at home, unless all know it. -/
  | basic (home name : String)
  /-- The class of members. -/
  | enumeration (owner : ClassRef) (name : String)
  /-- The enumeration of the explicit absence of a value. -/
  | explicit
  /-- What all enumerations come from. -/
  | enumerations
  deriving DecidableEq

namespace TypeRef

/-- A type that all know. -/
def common (name : String) : TypeRef := basic "" name

def name : TypeRef → String
  | basic _ name => name
  | enumeration _ name => name
  | explicit => "Explicit"
  | enumerations => "Enum"

/-- The type of a type. -/
def type : TypeRef → TypeRef
  | basic _ _ => common "type"
  | _ => basic "enum" "EnumType"

/-- The type and all types that it comes from, the nearest one first. -/
def line : TypeRef → List TypeRef
  | basic home name =>
    if name = "object" then [basic home name]
    else if name = "bool" then [basic home name, common "int", common "object"]
    else if name = "EnumType" then [basic home name, common "type", common "object"]
    else [basic home name, common "object"]
  | enumerations => [enumerations, common "object"]
  | t => [t, enumerations, common "object"]

def text : TypeRef → String
  | basic home name => "<class '" ++ (if home = "" then name else home ++ "." ++ name) ++ "'>"
  | t => "<enum " ++ Text.quoted t.name ++ ">"

end TypeRef

/-- Something that could be called, and is only shown. -/
inductive Routine
  /-- A routine that belongs to a value or to a type. -/
  | bound (qualifiedName : String) (owner : Value ⊕ TypeRef)
  | free (name : String)
  /-- What reads a slot of the members of a class. -/
  | slot (name : String) (owner : TypeRef)

namespace Routine

def typeName : Routine → String
  | bound _ _ => "method"
  | free _ => "function"
  | slot _ _ => Trait.slot.typeName

def qualifiedName : Routine → String
  | bound qualifiedName _ => qualifiedName
  | free name => name
  | slot name owner => owner.name ++ "." ++ name

/-- The last part of the name. -/
def name (r : Routine) : String :=
  String.ofList (r.qualifiedName.toList.reverse.takeWhile (· != '.')).reverse

def text : Routine → Except Failure String
  | bound qualifiedName (.inl v) => do
    return "<bound method " ++ qualifiedName ++ " of " ++ (← v.writing) ++ ">"
  | bound qualifiedName (.inr t) =>
    .ok ("<bound method " ++ qualifiedName ++ " of " ++ t.text ++ ">")
  | free name => .ok ("<function " ++ name ++ ">")
  | slot name owner => .ok ("<member " ++ Text.quoted name ++ " of '" ++ owner.name ++ "' objects>")

end Routine

inductive Part
  | value (v : Value)
  | type (t : TypeRef)
  | types (ts : List TypeRef)
  /-- What a member has for itself. -/
  | state (entries : List (String × (Value ⊕ TypeRef)))
  /-- A mapping that cannot be changed. -/
  | view (entries : List (Value × Value))
  | primitive (p : Primitive)
  | routine (r : Routine)

namespace Part

/-- A value or a type as a part. -/
def ofEither : Value ⊕ TypeRef → Part
  | .inl v => value v
  | .inr t => type t

/-- The type of a part. -/
def typeOf : Part → TypeRef
  | value (.member m) => .enumeration m.owner m.enumeration
  | value .explicitNone => .explicit
  | value v => .common v.typeName
  | type t => t.type
  | types _ => .common "tuple"
  | state _ => .common "dict"
  | view _ => .common "mappingproxy"
  | primitive _ => .common "Primitive"
  | routine r => .common r.typeName

/-- The written form of a value, or the text of a type. -/
def writeEither : Value ⊕ TypeRef → Except Failure String
  | .inl v => v.writing
  | .inr t => .ok t.text

/-- The text of a part. -/
def plain : Part → Except Failure String
  | value v => v.plain
  | type t => .ok t.text
  | types [t] => .ok ("(" ++ t.text ++ ",)")
  | types ts => .ok ("(" ++ ", ".intercalate (ts.map TypeRef.text) ++ ")")
  | state entries => do
    let shown ← entries.mapM fun e => do
      return Text.quoted e.1 ++ ": " ++ (← writeEither e.2)
    return "\x7b" ++ ", ".intercalate shown ++ "\x7d"
  | view entries => (Value.mapping entries).writing
  | primitive p =>
    .ok ("Primitive(name=" ++ Text.quoted p.name ++ ", parse=<function parse_" ++ p.name ++
      ">, format=<function format_" ++ p.name ++ ">)")
  | routine r => r.text

/-- The written form of a part. -/
def writing : Part → Except Failure String
  | value v => v.writing
  | view entries => do return "mappingproxy(" ++ (← (Value.mapping entries).writing) ++ ")"
  | p => p.plain

end Part

end Template

end EditorConfig

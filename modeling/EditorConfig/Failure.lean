import EditorConfig.Primitive.Basic
import EditorConfig.Template.Fault
import EditorConfig.Value.Written

/-! Everything that can go wrong, by cause, and the sentence that reports it. -/

namespace EditorConfig

/-- What a declaration gives to a property class. -/
inductive Attribute
  | rule
  | primitive
  | sentinel
  | key
  | kind
  deriving DecidableEq

/-- The name of an attribute in its class. -/
def Attribute.name : Attribute → String
  | rule => "parse_value"
  | primitive => "primitive"
  | sentinel => "sentinel"
  | key => "key"
  | kind => "value_kind"

/-- The report of a value that a property does not recognize. -/
def unrecognizedText (key : String) (raw : Value) : String :=
  "Unrecognized value for " ++ key ++ ": " ++ raw.written

/-- Why a field of the settings does not accept a value. -/
inductive Refusal
  | unrecognized (s : String)
  | invalid (v : Value)
  | explicitNone
  | outOfRange (n : Int)
  | undeclared (missing : Attribute)

def Refusal.message (key : String) : Refusal → String
  | unrecognized s => unrecognizedText key (.text s)
  | invalid v => v.reportedIn ("Invalid " ++ key ++ " value: " ++ v.written)
  | explicitNone => key ++ " cannot be explicitly none"
  | outOfRange n =>
    (Value.int n).reportedIn (key ++ " must be a non-negative integer, got " ++ toString n)
  | undeclared _ => key ++ " is not declared"

/-- A field of the settings with the reason why it does not accept its value. -/
structure Issue where
  field : StandardProperty
  refusal : Refusal

def Issue.message (i : Issue) : String := "Value error, " ++ i.refusal.message i.field.key

inductive Failure
  /-- The class has not been given the attribute yet. -/
  | undeclared (missing : Attribute)
  /-- A member of the class has the name of the attribute, which therefore cannot be given. -/
  | occupied (a : Attribute)
  /-- A value of the type is found where something is to be called. -/
  | notCallable (typeName : String)
  /-- The class of a member is asked for, and there is a trait in its place. -/
  | unclassified
  /-- The slot of this name is read, which is empty. -/
  | unfilled (slot : String)
  /-- An integer has too many digits to be written. -/
  | overlong
  /-- A value of the type cannot be the key of a mapping. -/
  | unhashable (typeName : String)
  | reservedName (name : String)
  | repeatedName (name : String)
  /-- A text under this name keeps the class from being made. -/
  | unfitName (name : String)
  /-- A literal of the class is asked for, which is no enumeration. -/
  | withoutLiterals (name : String)
  /-- The members are not the ones listed, or are declared in another order. -/
  | unlisted (order : List String)
  | noSuchClass
  /-- No property is registered under the key. -/
  | unknownProperty (key : String)
  /-- The property has no entry in the mapping. -/
  | notSet (key : String)
  | unrecognized (key : String) (raw : Value)
  /-- The value cannot be compared with a text. -/
  | unreadable (raw : Value)
  | notMapping (raw : Value)
  | keyNotText (key : Value)
  | valueNotText (key : String) (raw : Value)
  /-- There are warnings, and strict mode does not pass over them. -/
  | strictWarnings (warnings : List String)
  | unbuildable (issues : List Issue)
  | notInteger (v : Value)
  | notTruth (v : Value)
  | outOfRange (n : Int)
  | notMember (enumeration : String) (v : Value)
  | noExplicitNone (name : String)
  /-- The template in the place of a primitive cannot be filled with the value. -/
  | unfillable (fault : Template.Fault)
  | notEnumeration (name : String)
  /-- The sentinel stands for a value of the primitive too. -/
  | sentinelRecognized (sentinel : String) (p : Primitive)
  | malformedKey (key : String)
  | takenKey (key : String)
  | fieldNotText (key : Value)
  | invalidFields (issues : List Issue)
  | noSuchField (key : String)
  | frozen (field : String)
  /-- The attribute of settings cannot hold the value. -/
  | unassignable (name : String) (v : Value)
  /-- The attribute of settings can hold no value but its own. -/
  | readOnly (name : String)
  | noSuchSettings (name : String)
  | noSuchLiteral (enumeration name : String)

namespace Failure

/-- Properties that cannot be resolved, in contrast to what else a resolution can come upon. -/
def unresolvable : Failure → Bool
  | notMapping _ | keyNotText _ | valueNotText _ _ | strictWarnings _ | unbuildable _ => true
  | _ => false

/-- The sentence that reports a failure, for those that have one. A failed look-up quotes it. -/
def message : Failure → Option String
  | notCallable typeName => some ("'" ++ Text.clipped typeName ++ "' object is not callable")
  | overlong => some Text.overlongText
  | unhashable typeName => some ("unhashable type: '" ++ Text.clipped typeName ++ "'")
  | unknownProperty key => some (Text.quoted ("Unknown property: " ++ Text.quoted key))
  | notSet key => some (Text.quoted ("Property not set: " ++ key))
  | unrecognized key raw => some (unrecognizedText key raw)
  | notMapping raw => some ("Properties must be a mapping, got " ++ raw.typeName)
  | keyNotText key => some ("Property key must be a string, got " ++ key.typeName)
  | valueNotText key raw => some ("Value for " ++ key ++ " must be a string, got " ++ raw.typeName)
  | strictWarnings warnings =>
    some ("Property warnings in strict mode: " ++ "; ".intercalate warnings)
  | unbuildable issues =>
    some ("Failed to build settings: " ++ "; ".intercalate (issues.map Issue.message))
  | notInteger v => some ("Expected int, got " ++ v.typeName)
  | notTruth v => some ("Expected bool, got " ++ v.typeName)
  | outOfRange n => some ((Value.int n).reportedIn ("Integer out of range: " ++ toString n))
  | notMember enumeration v => some ("Expected " ++ enumeration ++ " member, got " ++ v.written)
  | noExplicitNone name => some (name ++ " has no explicit none value")
  | unfillable fault => fault.message
  | notEnumeration name => some ("enum_property requires an Enum, got " ++ name)
  | sentinelRecognized sentinel p =>
    some ("Sentinel " ++ Text.quoted sentinel ++ " is also a valid " ++ p.name ++ " value")
  | malformedKey key => some ("Invalid property key: " ++ Text.quoted key)
  | takenKey key => some ("Property key already registered: " ++ Text.quoted key)
  | frozen _ => some "Instance is frozen"
  | withoutLiterals name => some ("type '" ++ Text.clipped name ++ "' is not subscriptable")
  | undeclared _ | occupied _ | unclassified | unfilled _ | reservedName _ | repeatedName _
  | unfitName _ | unlisted _ | noSuchClass | unreadable _ | fieldNotText _ | invalidFields _
  | noSuchField _ | unassignable _ _ | readOnly _ | noSuchSettings _ | noSuchLiteral _ _ => none

end Failure

/-- What does not fail is bound in turn. -/
theorem bind_eq_ok {ε α β : Type} {x : Except ε α} {f : α → Except ε β} {b : β}
    (h : x >>= f = .ok b) : ∃ a, x = .ok a ∧ f a = .ok b := by
  cases x with
  | error e => cases h
  | ok a => exact ⟨a, rfl, h⟩

end EditorConfig

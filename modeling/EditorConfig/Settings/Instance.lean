import EditorConfig.Settings.View

/-! Instances of settings. An instance has its fields under their names, and is not to be changed:
fields cannot be set. What is not public can be, and through the attribute that holds all fields an
instance comes to have other ones, or to lack some. -/

namespace EditorConfig

structure Instance where
  /-- The fields that are there under their keys, with the values of those that are set. -/
  field? : String → Option (Option Value)

namespace Instance

/-- The instance that has all fields of settings. -/
def ofSettings (s : Settings) : Instance :=
  ⟨fun key => (StandardProperty.ofKey? key).map s.value⟩

/-- The value of the field of a key. -/
def get (x : Instance) (key : String) : Except Failure (Option Value) :=
  match x.field? key with
  | some v => .ok v
  | none => .error (.noSuchField key)

/-- The settings that the fields make up, if none is missing. -/
def settings (x : Instance) : Except Failure Settings :=
  match StandardProperty.all.find? fun p => (x.field? p.key).isNone with
  | some p => .error (.noSuchField p.key)
  | none => .ok ⟨fun p => (x.field? p.key).join⟩

def view (dump : Yaml.Dump) (cat : Catalog) (x : Instance) : Except Failure View := do
  (← x.settings).view dump cat

/-- A name that is not public. -/
def isHidden (name : String) : Bool := name.toList.head? == some '_'

/-- The name of what holds all fields. -/
def fieldsName : String := "__dict__"

/-- A value as that of a field. -/
def fieldValue : Value → Option Value
  | .null => none
  | v => some v

/-- The instance that has its fields from a mapping. -/
def ofEntries (entries : List (Value × Value)) : Instance :=
  ⟨fun key => (Value.entry? key entries).map fieldValue⟩

/-- The names of what every instance has and keeps. -/
def readOnlyNames : List String := ["__weakref__", "__fields_set__"]

/-- Sets an attribute. Only a mapping can hold the fields, and no value is a class. All other names
that are not public are free, and no fields. -/
def assign (x : Instance) (name : String) (v : Value) : Except Failure Instance :=
  if !isHidden name then .error (.frozen name)
  else if name = fieldsName then
    match v with
    | .mapping entries => .ok (ofEntries entries)
    | v => .error (.unassignable name v)
  else if name = Hook.classification.name then .error (.unassignable name v)
  else if name ∈ readOnlyNames then .error (.readOnly name)
  else .ok x

end Instance

end EditorConfig

import EditorConfig.Catalog.Basic
import EditorConfig.Value.Mapping

/-! Look-up of a single property in a mapping, which tells a property that is not set from one whose
value is not recognized. Other entries of the mapping are not looked at. -/

namespace EditorConfig

/-- A property is given by its key or by its class. -/
inductive PropertyRef
  | key (key : String)
  | named (ref : ClassRef)

def Catalog.find (cat : Catalog) : PropertyRef → Except Failure PropertyClass
  | .key key => cat.property key
  | .named ref => cat.classOf ref

/-- The value of a property in a mapping, under the latest key of the property. -/
def PropertyClass.lookup (c : PropertyClass) (entries : List (Value × Value)) :
    Except Failure Value := do
  let key ← c.require .key c.key
  match Value.entry? key entries with
  | none => .error (.notSet key)
  | some raw =>
    match ← c.read raw with
    | some v => return v
    | none => .error (.showing raw (.unrecognized key raw))

/-- Replaces the failures that a look-up of a known property is expected to have. -/
def orDefault (default : Value) : Except Failure Value → Except Failure Value
  | .error (.notSet _) => .ok default
  | .error (.unrecognized _ _) => .ok default
  | result => result

namespace Catalog

def get (cat : Catalog) (entries : List (Value × Value)) (prop : PropertyRef) :
    Except Failure Value := do
  (← cat.find prop).lookup entries

def getOr (cat : Catalog) (entries : List (Value × Value)) (prop : PropertyRef) (default : Value) :
    Except Failure Value :=
  orDefault default (cat.get entries prop)

end Catalog

end EditorConfig

import EditorConfig.Catalog.Basic
import EditorConfig.Properties

/-! Validation of raw properties, which looks at the standard properties only and builds nothing. -/

namespace EditorConfig.Catalog

/-- The report on one standard property, if its text is not recognized. -/
def check (cat : Catalog) (raw : Properties) (p : StandardProperty) :
    Except Failure (Option String) :=
  match raw.lookup? p.key with
  | none => .ok none
  | some s => do
    match ← (cat.standard p).parse s with
    | none => return some (unrecognizedText p.key (.text s))
    | some _ => return none

/-- The reports on a value in catalog order, or the only one on a value that is no mapping from
texts to texts. -/
def validate (cat : Catalog) (raw : Value) : Except Failure (List String) :=
  match raw.properties with
  | .ok properties => do return (← StandardProperty.all.mapM (cat.check properties)).filterMap id
  | .error f => if f.unresolvable then .ok f.message.toList else .error f

end EditorConfig.Catalog

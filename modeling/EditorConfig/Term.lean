import EditorConfig.Catalog.Basic
import EditorConfig.Value.Mapping

/-! Terms: values as commands write them. A literal stands for whatever has its name in the catalog,
and a mapping is a list of pairs, whose keys may repeat. -/

namespace EditorConfig

/-- The value as the key of a mapping. -/
def Value.asKey (v : Value) : Except Failure Value :=
  match v.unhashed? with
  | some f => .error f
  | none => .ok v

inductive Term
  | given (v : Value)
  | literal (enumeration name : String)
  | list (items : List Term)
  | mapping (pairs : List (Term × Term))

namespace Term

mutual

/-- The value of a term. -/
def eval (cat : Catalog) : Term → Except Failure Value
  | .given v => .ok v
  | .literal enumeration name => cat.literal enumeration name
  | .list items => do return .list (← evalItems cat items)
  | .mapping pairs => do return .mappingOf (← evalPairs cat pairs)

def evalItems (cat : Catalog) : List Term → Except Failure (List Value)
  | [] => .ok []
  | t :: rest => do return (← t.eval cat) :: (← evalItems cat rest)

/-- The pairs of a mapping; every key must be able to be one. -/
def evalPairs (cat : Catalog) : List (Term × Term) → Except Failure (List (Value × Value))
  | [] => .ok []
  | (k, t) :: rest => do
    let key ← k.eval cat
    let v ← t.eval cat
    return (← key.asKey, v) :: (← evalPairs cat rest)

end

/-- The entries of a mapping that is given by its pairs. -/
def entries (cat : Catalog) (pairs : List (Term × Term)) :
    Except Failure (List (Value × Value)) := do
  return Value.entriesOf (← evalPairs cat pairs)

end Term

end EditorConfig

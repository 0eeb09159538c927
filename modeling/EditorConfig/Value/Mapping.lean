import EditorConfig.Entries
import EditorConfig.Value.Numeral

/-! Mappings between values: which keys are the same one, and what a mapping holds under a text. -/

namespace EditorConfig.Value

/-- Two numbers are the same key when they denote the same integer, or are floats with the same
digits other than those of the undefined number. All other keys are compared within their kind. -/
def sameKey : Value → Value → Bool
  | null, null => true
  | text s, text t => s == t
  | explicitNone, explicitNone => true
  | member m, member n => m == n
  | bytes bs, bytes cs => bs == cs
  | v, w =>
    match v.integer?, w.integer? with
    | some m, some n => m == n
    | none, none =>
      match v, w with
      | float x, float y => x == y && x != "nan"
      | _, _ => false
    | _, _ => false

@[simp] theorem sameKey_text (s t : String) : sameKey (text s) (text t) = (s == t) := rfl

/-- The entries of a mapping from pairs of keys and values. -/
def entriesOf (pairs : List (Value × Value)) : List (Value × Value) := Entries.ofPairs sameKey pairs

def mappingOf (pairs : List (Value × Value)) : Value := mapping (entriesOf pairs)

/-- What a mapping holds under a text. -/
def entry? (key : String) (entries : List (Value × Value)) : Option Value :=
  Entries.lookup? sameKey (text key) entries

end EditorConfig.Value

import EditorConfig.Value.Hooked
import EditorConfig.Value.Mapping

/-! Raw properties: the texts found for a file, listed with their keys, one entry a key. They are
taken from a mapping whose keys and values are all texts. -/

namespace EditorConfig

@[ext]
structure Properties where
  entries : List (String × String)
  nodup : (entries.map Prod.fst).Nodup

namespace Properties

def ofPairs (pairs : List (String × String)) : Properties where
  entries := Entries.ofPairs (· == ·) pairs
  nodup := Entries.nodup_ofPairs pairs

/-- The text of a key. -/
def lookup? (raw : Properties) (key : String) : Option String := raw.entries.lookup key

/-- The mapping that the properties are taken from. -/
def mapping (raw : Properties) : List (Value × Value) :=
  raw.entries.map fun e => (.text e.1, .text e.2)

def toValue (raw : Properties) : Value := .mapping raw.mapping

end Properties

namespace Value

/-- A key and a value as texts. The key is looked at first. -/
def textEntry : Value × Value → Except Failure (String × String)
  | (.text k, .text s) => .ok (k, s)
  | (.text k, v) => .error (.valueNotText k v)
  | (k, _) => .error (.keyNotText k)

/-- The properties of a mapping. The first entry that is not made of texts is reported. -/
def properties : Value → Except Failure Properties
  | .mapping entries => do return .ofPairs (← entries.mapM textEntry)
  | v => .error (.notMapping v)

theorem mapM_textEntry (entries : List (String × String)) :
    (entries.map fun e => (text e.1, text e.2)).mapM textEntry = .ok entries := by
  induction entries with
  | nil => rfl
  | cons e rest ih => rw [List.map_cons, List.mapM_cons, ih]; rfl

@[simp] theorem properties_toValue (raw : Properties) : raw.toValue.properties = .ok raw := by
  rw [Properties.toValue, Properties.mapping, properties, mapM_textEntry]
  exact congrArg Except.ok (Properties.ext (Entries.ofPairs_of_nodup raw.nodup))

end Value

end EditorConfig

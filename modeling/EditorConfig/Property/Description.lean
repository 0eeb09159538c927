import EditorConfig.Property.Basic

/-! Descriptions of properties: the key, the kind, the type of the values, and what the kind adds to
these. -/

namespace EditorConfig

structure Description where
  key : String
  /-- The kind, or what is found in its place. -/
  kind : Kind ⊕ Occupant
  /-- The name of the class of an enumeration, the name of the primitive otherwise. -/
  typeName : String
  /-- The texts of the members of an enumeration. -/
  values : Option (List String)
  /-- The text of an optional property that says that there is no value. -/
  sentinel : Option String
  deriving DecidableEq

def PropertyClass.describe (c : PropertyClass) : Except Failure Description := do
  let key ← c.require .key c.key
  match ← c.shownKind with
  | .inl .enumeration =>
    return ⟨key, .inl .enumeration, c.name, some (← c.members.mapM Member.givenText), none⟩
  | .inl .optional =>
    let typeName ← c.primitiveName
    return ⟨key, .inl .optional, typeName, none, some (← c.shownSentinel)⟩
  | kind => return ⟨key, kind, ← c.primitiveName, none, none⟩

end EditorConfig

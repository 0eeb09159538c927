import EditorConfig.Template.Fill

/-! Rendering in a catalog, where templates find the classes of members. -/

namespace EditorConfig.Catalog

/-- The text that stands for a value of a property. -/
def render (cat : Catalog) (c : PropertyClass) (v : Value) : Except Failure String :=
  c.render (Template.fill cat) v

end EditorConfig.Catalog

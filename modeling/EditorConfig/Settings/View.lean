import EditorConfig.Settings.Basic
import EditorConfig.Text.Words
import EditorConfig.Yaml

/-! What can be seen of settings: their fields, what follows from them, and their texts. -/

namespace EditorConfig

namespace Settings

/-- The first line of a document. -/
def heading : String := "# EditorConfig properties"

/-- A YAML document with one pair for each field that is set. Without any there is nothing to be
dumped. -/
def yaml (dump : Yaml.Dump) (cat : Catalog) (s : Settings) : Except Failure String := do
  let es ← s.entries cat
  let body := if es.isEmpty then [] else [Text.stripped (dump .block es)]
  return "\n".intercalate (heading :: body) ++ "\n"

/-- The fields that are set, on one line. -/
def text (cat : Catalog) (s : Settings) : Except Failure String := do
  let es ← s.entries cat
  let pairs := es.map fun e => e.1 ++ "=" ++ e.2
  let shown := if es.isEmpty then "<empty>" else ", ".intercalate pairs
  return "EditorSettings(" ++ shown ++ ")"

end Settings

structure View where
  /-- Every field with its key, in catalog order. -/
  fields : List (String × Option Value)
  isEmpty : Bool
  effectiveIndentSize : Option Value
  effectiveTabWidth : Option Value
  entries : List (String × String)
  yaml : String
  text : String

def Settings.view (dump : Yaml.Dump) (cat : Catalog) (s : Settings) : Except Failure View := do
  return {
    fields := StandardProperty.all.map fun p => (p.key, s.value p)
    isEmpty := s.isEmpty
    effectiveIndentSize := s.effectiveIndentSize
    effectiveTabWidth := s.effectiveTabWidth
    entries := ← s.entries cat
    yaml := ← s.yaml dump cat
    text := ← s.text cat }

end EditorConfig

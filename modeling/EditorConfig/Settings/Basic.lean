import EditorConfig.Catalog.Rendering
import EditorConfig.Properties

/-! Settings: at most one value for each standard property. A text is read by the rule of its
property; other values must already be values of the property. -/

namespace EditorConfig

@[ext]
structure Settings where
  value : StandardProperty → Option Value

/-- The number of a value, for integers in the range of unsigned ones. -/
def acceptInteger : Value → Except Refusal Value
  | .int n => if 0 ≤ n ∧ n ≤ Uint.max then .ok (.int n) else .error (.outOfRange n)
  | v => .error (.invalid v)

def acceptTruth : Value → Except Refusal Value
  | .bool b => .ok (.bool b)
  | v => .error (.invalid v)

def acceptMember (members : List Member) : Value → Except Refusal Value
  | .member m => if m ∈ members then .ok (.member m) else .error (.invalid (.member m))
  | v => .error (.invalid v)

namespace PropertyClass

/-- Accepts the text of a value. -/
def acceptText (c : PropertyClass) (s : String) : Except Refusal Value :=
  match c.parse s with
  | .ok (some v) => .ok v
  | .ok none => .error (.unrecognized s)
  | .error _ => .error (.undeclared .rule)

/-- Accepts a value that is given as such. -/
def acceptTyped (c : PropertyClass) (v : Value) : Except Refusal Value :=
  match c.kind, v with
  | none, _ => .error (.undeclared .kind)
  | some .enumeration, v => acceptMember c.members v
  | some .scalar, .explicitNone => .error .explicitNone
  | some .optional, .explicitNone => .ok .explicitNone
  | some _, v =>
    match c.primitive with
    | none => .error (.undeclared .primitive)
    | some .bool => acceptTruth v
    | some .uint => acceptInteger v

/-- The value that a field holds after it was given one; the null value leaves it unset. -/
def accept (c : PropertyClass) : Value → Except Refusal (Option Value)
  | .null => .ok none
  | .text s => (c.acceptText s).map some
  | v => (c.acceptTyped v).map some

end PropertyClass

namespace Settings

/-- The order in which the fields are declared. -/
def fieldOrder : List StandardProperty :=
  [.indentStyle, .indentSize, .tabWidth, .endOfLine, .charset, .trimTrailingWhitespace,
    .finalNewline, .maxLineLength]

/-- The fields are declared in catalog order. -/
theorem fieldOrder_eq_all : fieldOrder = StandardProperty.all := rfl

/-- The fields whose values are not accepted, in the order of their declaration. -/
def issues (cat : Catalog) (given : StandardProperty → Value) : List Issue :=
  fieldOrder.filterMap fun p =>
    match (cat.standard p).accept (given p) with
    | .ok _ => none
    | .error r => some ⟨p, r⟩

/-- Settings from one value for every field, unless some value is not accepted. -/
def ofFields (cat : Catalog) (given : StandardProperty → Value) : Except (List Issue) Settings :=
  match issues cat given with
  | [] => .ok ⟨fun p => ((cat.standard p).accept (given p)).toOption.join⟩
  | found => .error found

/-- A key that can name a field. -/
def fieldName : Value → Except Failure String
  | .text k => .ok k
  | k => .error (.fieldNotText k)

/-- Settings from a mapping. Keys that name no field are ignored, but all keys must be texts. -/
def ofMapping (cat : Catalog) (entries : List (Value × Value)) : Except Failure Settings := do
  let _ ← entries.mapM fun e => fieldName e.1
  (ofFields cat fun p => (Value.entry? p.key entries).getD .null).mapError .ofIssues

def isEmpty (s : Settings) : Bool := StandardProperty.all.all fun p => (s.value p).isNone

/-- The texts of the fields that are set, in catalog order. -/
def entries (cat : Catalog) (s : Settings) : Except Failure (List (String × String)) :=
  (StandardProperty.all.filterMap fun p => (s.value p).map fun v => (p, v)).mapM fun e => do
    return (e.1.key, ← cat.render (cat.standard e.1) e.2)

/-- The indentation width in columns; an indentation by tabs has the width of a tab. -/
def effectiveIndentSize (s : Settings) : Option Value :=
  match s.value .indentSize with
  | some .explicitNone => s.value .tabWidth
  | v => v

/-- The width of a tab; where it is not set it is that of an indentation, if this is a number. A
truth value counts as one. -/
def effectiveTabWidth (s : Settings) : Option Value :=
  match s.value .tabWidth, s.value .indentSize with
  | some v, _ => some v
  | none, some (.int n) => some (.int n)
  | none, some (.bool b) => some (.bool b)
  | none, _ => none

end Settings

end EditorConfig

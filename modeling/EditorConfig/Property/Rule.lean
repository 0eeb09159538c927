import EditorConfig.Primitive.Exchange

/-! Rules of properties: how the text written for a property is read. A rule is what a declaration
installs in a property class. -/

namespace EditorConfig

inductive Kind
  | enumeration
  | scalar
  | optional
  deriving DecidableEq

def Kind.name : Kind → String
  | .enumeration => "enum"
  | .scalar => "scalar"
  | .optional => "optional"

/-- The kind of a name. -/
def Kind.ofName? (s : String) : Option Kind :=
  [enumeration, scalar, optional].find? fun k => k.name == s

@[simp] theorem Kind.ofName?_name (k : Kind) : ofName? k.name = some k := by
  cases k <;> decide

/-- The first of the members that shows a text. -/
def matching? (s : String) : List Member → Except Failure (Option Member)
  | [] => .ok none
  | m :: rest => do
    if (← m.givenText) = s then return some m else matching? s rest

/-- One of the members of the class, a primitive, or a primitive next to a sentinel that says that
there is none. -/
inductive Rule
  | enumeration
  | scalar (p : Primitive)
  | optional (p : Primitive) (sentinel : String)
  deriving DecidableEq

namespace Rule

def kind : Rule → Kind
  | enumeration => .enumeration
  | scalar _ => .scalar
  | optional _ _ => .optional

def primitive? : Rule → Option Primitive
  | enumeration => none
  | scalar p => some p
  | optional p _ => some p

def sentinel? : Rule → Option String
  | optional _ sentinel => some sentinel
  | _ => none

/-- The value that a text stands for, if it is recognized. -/
def parse (members : List Member) : Rule → String → Except Failure (Option Value)
  | enumeration, s => do return (← matching? s members).map .member
  | scalar p, s => .ok (p.parse? s)
  | optional p sentinel, s => .ok (if s = sentinel then some .explicitNone else p.parse? s)

/-- Compares a value with a text, which it is not. -/
def compare (v : Value) : Except Failure Unit :=
  if v.equatable then .ok () else .error (.unreadable v)

/-- Reads any value: only texts are recognized, and a value that the members, the sentinel or the
primitive of the rule cannot compare with a text is a failure. -/
def read (members : List Member) (r : Rule) : Value → Except Failure (Option Value)
  | .text s => r.parse members s
  | v =>
    match r, members with
    | enumeration, [] => .ok none
    | enumeration, m :: _ => do
      let _ ← m.givenText
      compare v
      return none
    | scalar p, _ => p.read v
    | optional p _, _ => do
      compare v
      p.read v

@[simp] theorem read_text (members : List Member) (r : Rule) (s : String) :
    r.read members (.text s) = r.parse members s := rfl

end Rule

end EditorConfig

import EditorConfig.Template.Basic
import EditorConfig.Template.Path

/-! Filling templates with one value. A field names the value by the number zero, or has no name,
and goes on with a path that leads to a part of it. Fields without names count up, so there can be
only one. -/

namespace EditorConfig.Template

/-- How the fields of a template are told apart: nothing is known yet, they count up, or they are
numbered. -/
inductive Numbering
  | undecided
  | automatic (next : Nat)
  | manual

/-- The number of the value that a field names by its first part. -/
def Numbering.choose : Numbering → Option Nat → Except Fault (Numbering × Nat)
  | undecided, none => .ok (automatic 1, 0)
  | automatic n, none => .ok (automatic (n + 1), n)
  | manual, none => .error (.mixedNumbering true)
  | automatic _, some _ => .error (.mixedNumbering false)
  | _, some i => .ok (manual, i)

/-- The part of the value that the name of a field stands for. -/
def select (cat : Catalog) (v : Value) (numbering : Numbering) (name : List Char) :
    Except Failure (Numbering × Part) := do
  let first := name.takeWhile (!endsName ·)
  let index ← liftFault (number? first)
  if first ≠ [] ∧ index = none then .error (.unfillable (.noSuchName (String.ofList first)))
  let (numbering, i) ← liftFault (numbering.choose index)
  if i ≠ 0 then .error (.unfillable .noSuchValue)
  let part ← Part.follow cat (.value v) (name.dropWhile (!endsName ·))
  return (numbering, part)

/-- A written form in ASCII. -/
def asciiOnly (s : String) : String :=
  String.ofList (s.toList.flatMap fun c =>
    if c.toNat < 0x80 then [c] else Text.numericEscape c.toNat)

def convert (part : Part) : Option Char → Except Failure Part
  | none | some '\x00' => .ok part
  | some 'r' => do return .value (.text (← part.writing))
  | some 's' => do return .value (.text (← part.plain))
  | some 'a' => do return .value (.text (asciiOnly (← part.writing)))
  | some c => .error (.unfillable (.unknownConversion c))

/-- Lays out a part by the rules of its type. -/
def layOut (layout : List Char) (part : Part) : Except Failure (List Char) :=
  match part with
  | .value (.text s) => liftFault (Layout.text layout s.toList)
  | .value (.int n) => liftFault (Layout.integer part.typeOf.name layout n)
  | .value (.bool b) =>
    if layout = [] then .ok (Value.bool b).written.toList
    else liftFault (Layout.integer part.typeOf.name layout (if b then 1 else 0))
  | .value (.float digits) => liftFault (Layout.float layout digits)
  | .value .explicitNone => do liftFault (Layout.text layout (← part.plain).toList)
  | .value (.member m) => do
    m.demand .formatting
    liftFault (Layout.text layout (← part.plain).toList)
  | part =>
    if layout = [] then do return (← part.plain).toList
    else .error (.unfillable (.withoutLayouts part.typeOf.name))

/-- Fills pieces one after another. Layouts with fields are filled first; `depth` says how deep they
can still be in each other. -/
def fillPieces (cat : Catalog) (v : Value) :
    Nat → Numbering → List Piece → Except Failure (Numbering × List Char)
  | _, numbering, [] => .ok (numbering, [])
  | depth, numbering, .character c :: rest => do
    let (numbering, cs) ← fillPieces cat v depth numbering rest
    return (numbering, c :: cs)
  | depth, numbering, .field f :: rest => do
    let (numbering, part) ← select cat v numbering f.name
    let shown ← convert part f.conversion
    let (numbering, layout) ←
      if f.layout.contains '\x7b' then
        match depth with
        | 0 => .error (.unfillable .tooDeep)
        | depth + 1 => do
          let (inner, fault) := pieces f.layout
          let filled ← fillPieces cat v depth numbering inner
          fault.elim (.ok filled) fun e => .error (.unfillable e)
      else .ok (numbering, f.layout)
    let laidOut ← layOut layout shown
    let (numbering, cs) ← fillPieces cat v depth numbering rest
    return (numbering, laidOut ++ cs)
termination_by depth _ ps => (depth, ps.length)

/-- Fills a template with a value. -/
def fill (cat : Catalog) (template : String) (v : Value) : Except Failure String := do
  let (ps, fault) := pieces template.toList
  let (_, cs) ← fillPieces cat v 1 .undecided ps
  match fault with
  | some e => .error (.unfillable e)
  | none => return String.ofList cs

end EditorConfig.Template

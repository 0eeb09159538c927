import EditorConfig.Template.Family
import EditorConfig.Template.Number

/-! Paths of fields. A path leads from a value to a part of it by steps, each of which is the name
of an attribute, or the number or the key of an item. -/

namespace EditorConfig.Template

inductive Step
  | name (name : String)
  | number (n : Nat)
  | key (key : String)

/-- The number that a text is, if it is one. -/
def number? (cs : List Char) : Except Fault (Option Nat) := do
  match ← scanNumber cs with
  | (some n, []) => return some n
  | _ => return none

/-- Ends the name of an attribute. -/
def endsName (c : Char) : Bool := c == '.' || c == '['

/-- The steps of a path, up to the first fault. -/
def steps : List Char → List Step × Option Fault
  | [] => ([], none)
  | '.' :: rest =>
    let name := rest.takeWhile (!endsName ·)
    if name = [] then ([], some .emptyPart)
    else
      let (tail, fault) := steps (rest.dropWhile (!endsName ·))
      (.name (String.ofList name) :: tail, fault)
  | '[' :: rest =>
    match _h : rest.dropWhile (· != ']') with
    | [] => ([], some .unclosedIndex)
    | _ :: after =>
      let key := rest.takeWhile (· != ']')
      match number? key with
      | .error fault => ([], some fault)
      | .ok index =>
        if key = [] then ([], some .emptyPart)
        else
          let (tail, fault) := steps after
          (index.elim (.key (String.ofList key)) .number :: tail, fault)
  | _ => ([], some .looseIndex)
termination_by path => path.length
decreasing_by
  · simp only [List.length_cons]
    exact Nat.lt_succ_of_le (List.dropWhile_suffix _).length_le
  · have := (List.dropWhile_suffix (l := rest) (· != ']')).length_le
    rw [_h, List.length_cons] at this
    simp only [List.length_cons]
    omega

/-- The failure of filling a template. -/
def liftFault {α : Type} : Except Fault α → Except Failure α
  | .ok a => .ok a
  | .error fault => .error (.unfillable fault)

/-- A part that is there, or the fault of finding none. -/
def found {α : Type} (fault : Fault) : Option α → Except Failure α
  | some a => .ok a
  | none => .error (.unfillable fault)

namespace TypeRef

/-- What every type has under a name. -/
def common? (t : TypeRef) (name : String) : Option Part :=
  match name with
  | "__class__" => some (.type t.type)
  | "__name__" => some (.value (.text t.name))
  | "__mro__" => some (.types t.line)
  | "__bases__" => some (.types (t.line.tail.take 1))
  | "__base__" => some ((t.line[1]?).elim (.value .null) .type)
  | _ => none

/-- What is found under a name at a type. -/
def named (cat : Catalog) (t : TypeRef) (name : String) : Except Failure Part :=
  match t.common? name, t.family? cat with
  | some part, _ => .ok part
  | none, some f =>
    match name with
    | "__qualname__" => .ok (.value (.text f.qualifiedName))
    | "__members__" => .ok (.view f.byName)
    | _ => f.ofType name
  | none, none =>
    if name = "__qualname__" then .ok (.value (.text t.name))
    else .error (.unfillable (.noSuchAttribute name))

/-- The member that a key names; only enumerations have any. -/
def item (cat : Catalog) (t : TypeRef) (key : String) : Except Failure Part :=
  match t.family? cat with
  | some f => do return .value (← found (.noSuchEntry key) (f.entries.lookup key))
  | none => .error (.withoutLiterals t.name)

end TypeRef

/-- What is found under a name at a value that is no member. -/
def valueNamed? (name : String) : Value → Option Value
  | .int n =>
    match name with
    | "real" | "numerator" => some (.int n)
    | "imag" => some (.int 0)
    | "denominator" => some (.int 1)
    | _ => none
  | .bool b =>
    match name with
    | "real" | "numerator" => some (.int (if b then 1 else 0))
    | "imag" => some (.int 0)
    | "denominator" => some (.int 1)
    | _ => none
  | .float digits =>
    match name with
    | "real" => some (.float digits)
    | "imag" => some (.float "0.0")
    | _ => none
  | .list _ | .mapping _ => if name = Hook.hashing.name then some .null else none
  | .null => if name = "__doc__" then some .null else none
  | _ => none

/-- What is found under a name at a routine. -/
def Routine.named? (r : Routine) (name : String) : Option Part :=
  match name, r with
  | "__name__", r => some (.value (.text r.name))
  | "__qualname__", r => some (.value (.text r.qualifiedName))
  | "__self__", .bound _ owner => some (.ofEither owner)
  | "__doc__", .bound _ _ => some (.value .null)
  | _, _ => none

/-- The components of a primitive, in order. -/
def primitiveParts (p : Primitive) : List (String × Part) :=
  [("name", .value (.text p.name)), ("parse", .routine (.free ("parse_" ++ p.name))),
    ("format", .routine (.free ("format_" ++ p.name)))]

namespace Part

/-- What is found under a name at a part that is neither a member nor a type. -/
def own? (name : String) : Part → Option Part
  | value v => (valueNamed? name v).map value
  | state _ => (valueNamed? name (.mapping [])).map value
  | routine r => r.named? name
  | primitive p => (primitiveParts p).lookup name
  | _ => none

/-- What is found under a name. -/
def named (cat : Catalog) (name : String) (part : Part) : Except Failure Part :=
  match part, part.typeOf.family? cat with
  | value v, some f => f.ofMember v name
  | type t, _ => t.named cat name
  | part, _ =>
    found (.noSuchAttribute name)
      (part.own? name <|> if name = "__class__" then some (type part.typeOf) else none)

/-- The item that has a number. -/
def numbered (cat : Catalog) (i : Nat) (part : Part) : Except Failure Part :=
  match part with
  | value (.text s) =>
    found (.noSuchIndex i) (s.toList[i]?.map fun c => value (.text (String.singleton c)))
  | value (.bytes bs) => found (.noSuchIndex i) (bs[i]?.map fun b => value (.int b.toNat))
  | value (.list items) => found (.noSuchIndex i) (items[i]?.map value)
  | value (.mapping entries) =>
    found (.noSuchEntry (toString i))
      ((Entries.lookup? Value.sameKey (.int i) entries).map value)
  | value (.member m) => do
    m.demand .item
    .error (.unfillable (.indivisible m.enumeration))
  | types ts => found (.noSuchIndex i) (ts[i]?.map type)
  | primitive p => found (.noSuchIndex i) ((primitiveParts p)[i]?.map Prod.snd)
  | state _ | view _ => .error (.unfillable (.noSuchEntry (toString i)))
  | type t =>
    if (t.family? cat).isSome then .error (.unfillable (.noSuchEntry (toString i)))
    else .error (.withoutLiterals t.name)
  | part => .error (.unfillable (.indivisible part.typeOf.name))

/-- The item that has a key. -/
def keyed (cat : Catalog) (key : String) (part : Part) : Except Failure Part :=
  match part with
  | value (.mapping entries) | view entries =>
    found (.noSuchEntry key) ((Value.entry? key entries).map value)
  | value (.member m) => do
    m.demand .item
    .error (.unfillable (.indivisible m.enumeration))
  | value v =>
    .error (.unfillable
      (if v.size?.isSome then .namedItem v.typeName else .indivisible v.typeName))
  | types _ | primitive _ => .error (.unfillable (.namedItem "tuple"))
  | state entries => found (.noSuchEntry key) ((entries.lookup key).map .ofEither)
  | type t => t.item cat key
  | part => .error (.unfillable (.indivisible part.typeOf.name))

/-- The part that one step leads to. -/
def step (cat : Catalog) (part : Part) : Step → Except Failure Part
  | .name name => part.named cat name
  | .number n => part.numbered cat n
  | .key key => part.keyed cat key

/-- The part that a path leads to. -/
def follow (cat : Catalog) (part : Part) (path : List Char) : Except Failure Part := do
  let (ss, fault) := steps path
  let last ← ss.foldlM (step cat) part
  match fault with
  | some e => .error (.unfillable e)
  | none => return last

end Part

end EditorConfig.Template

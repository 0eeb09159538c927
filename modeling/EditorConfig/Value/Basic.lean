import EditorConfig.StandardProperty

/-! Typed values: what settings hold, what a property's rule yields, and what a caller may hand over
in place of either. -/

namespace EditorConfig

/-- What a class has under a name besides its members: a text, which all members share, or a slot,
which every member has for itself. Nothing ever fills a slot. -/
inductive Trait
  | text (s : String)
  | slot
  deriving DecidableEq

/-- A hook replaces something that the members of a class do by themselves. A class declares it by a
trait with a special name, and no trait can do what is asked of it. -/
inductive Hook
  | equality
  | inequality
  | hashing
  | display
  | wording
  | formatting
  | classification
  | size
  | access
  | item
  | call
  deriving DecidableEq

/-- The name that declares the hook. -/
def Hook.name : Hook → String
  | equality => "__eq__"
  | inequality => "__ne__"
  | hashing => "__hash__"
  | display => "__repr__"
  | wording => "__str__"
  | formatting => "__format__"
  | classification => "__class__"
  | size => "__len__"
  | access => "__get__"
  | item => "__getitem__"
  | call => "__call__"

/-- One literal of a closed list of literals. Two members are the same only if they belong to the
same class. -/
structure Member where
  owner : ClassRef
  enumeration : String
  name : String
  text : String
  /-- The traits of the class, with their names. -/
  traits : List (String × Trait) := []
  deriving DecidableEq

/-- The trait that declares a hook. -/
def Member.hook? (m : Member) (h : Hook) : Option Trait := m.traits.lookup h.name

/-- A floating-point number is known by its shortest digits, which identify it. -/
inductive Value
  | null
  | text (s : String)
  | int (n : Int)
  | bool (b : Bool)
  | float (digits : String)
  | explicitNone
  | member (m : Member)
  | bytes (bs : List UInt8)
  | list (items : List Value)
  | mapping (entries : List (Value × Value))

/-- The name of the type of a trait, as messages show it. -/
def Trait.typeName : Trait → String
  | text _ => "str"
  | slot => "member_descriptor"

namespace Value

/-- The name of the type of a value, as messages show it. -/
def typeName : Value → String
  | null => "NoneType"
  | text _ => "str"
  | int _ => "int"
  | bool _ => "bool"
  | float _ => "float"
  | explicitNone => "Explicit"
  | member m => m.enumeration
  | bytes _ => "bytes"
  | list _ => "list"
  | mapping _ => "dict"

/-- The text of the explicit absence of a value. -/
def explicitText : String := "none"

mutual

/-- The values in a value that hold no others, in the order in which they are written. -/
def leaves : Value → List Value
  | list items => leavesOfItems items
  | mapping entries => leavesOfEntries entries
  | v => [v]

def leavesOfItems : List Value → List Value
  | [] => []
  | v :: rest => v.leaves ++ leavesOfItems rest

def leavesOfEntries : List (Value × Value) → List Value
  | [] => []
  | (k, v) :: rest => k.leaves ++ v.leaves ++ leavesOfEntries rest

end

def member? : Value → Option Member
  | member m => some m
  | _ => none

/-- The members in a value, in the order in which they are written. -/
def members (v : Value) : List Member := v.leaves.filterMap member?

/-- The number of parts, for values that have parts. -/
def size? : Value → Option Nat
  | text s => some s.length
  | bytes bs => some bs.length
  | list items => some items.length
  | mapping entries => some entries.length
  | _ => none

end Value

end EditorConfig

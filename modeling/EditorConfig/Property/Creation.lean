import EditorConfig.Property.Declaration
import EditorConfig.Text.Identifier
import EditorConfig.Text.Words

/-! Creation of classes. The literals that an enumeration is created from are declared one by one,
and their names say what they declare: members, hooks, directives, or attributes without effect. -/

namespace EditorConfig

/-- Exactly `n` underscores on either side, with something else between them. -/
def enclosedBy (n : Nat) (cs : List Char) : Bool :=
  decide (2 * n < cs.length) && (cs.takeWhile (· == '_')).length == n &&
    (cs.reverse.takeWhile (· == '_')).length == n

/-- An underscore, the name of the class, two underscores and more, but not two underscores at the
end. -/
def isPrivate (owner name : String) : Bool :=
  let lead := '_' :: owner.toList ++ ['_', '_']
  lead.isPrefixOf name.toList && decide (lead.length < name.toList.length) &&
    !(['_', '_'].isPrefixOf name.toList.reverse)

/-- The name that a class gives to a slot. One that starts with two underscores, and does not end
with two, is private to the class: an underscore and the name of the class come first, without the
underscores that this name starts with. A class whose name is nothing but underscores has no private
slots. -/
def slotName (owner name : String) : String :=
  match owner.toList.dropWhile (· == '_') with
  | [] => name
  | lead =>
    if ['_', '_'].isPrefixOf name.toList && !(['_', '_'].isPrefixOf name.toList.reverse) then
      String.ofList ('_' :: lead ++ name.toList)
    else name

/-- The directive that lists names which are not to declare members. -/
def ignoreDirective : String := "_ignore_"

/-- The directive that lists the members. -/
def orderDirective : String := "_order_"

/-- The names between single underscores that are not reserved, apart from `ignoreDirective`. Those
with another purpose than the order of members are without effect here. -/
def directives : List String :=
  [orderDirective, "_generate_next_value_", "_numeric_repr_", "_missing_", "_iter_member_",
    "_iter_member_by_value_", "_iter_member_by_def_"]

/-- The name under which a class is told about its slot. -/
def slotAttribute : String := "__slots__"

/-- The names that every enumeration has besides its literals, whatever these declare. -/
def builtinNames : List String :=
  ["_new_member_", "_use_args_", "_member_names_", "_member_map_", "_value2member_map_",
    "_unhashable_values_", "_member_type_", "_value_repr_", "_boundary_", "_flag_mask_",
    "_all_bits_", "_inverted_"]

/-- The names that an enumeration has as well, unless they are passed over. -/
def presetNames : List String := ["__module__", "_generate_next_value_"]

/-- Attributes that are taken out of a class when it is made. -/
def removedNames : List String := [orderDirective, "__qualname__", "__classcell__"]

/-- Attributes that leave no trait in the class: the class is only told something by them, or gets
another one instead. -/
def tracelessNames : List String := [orderDirective, "__module__"]

/-- What is used when a member is made, in the order of its use. The second part says whether the
use fails on a slot, too, that is empty: what is only asked for in vain, or set up, does not. -/
def makingUses : List (String × Bool) :=
  [("__new__", false), ("__getattribute__", false), ("__getattr__", false), ("__setattr__", true),
    ("__getattribute__", true), ("__init__", true)]

/-- What the literals of a class have declared. -/
structure Body where
  /-- Names and texts of members, in the order of their declaration. -/
  members : List (String × String) := []
  /-- The names that declare no members. -/
  ignored : List String := []
  /-- The attributes that are no members, the latest first. -/
  attributes : List (String × String) := []

namespace Body

def hasMember (b : Body) (name : String) : Bool := b.members.any fun l => l.1 == name

def keep (b : Body) (name text : String) : Body :=
  { b with attributes := (name, text) :: b.attributes }

/-- Replaces the names that declare no members. It is too late for a name that has declared one. -/
def ignore (b : Body) (names : List String) : Except Failure Body :=
  match names.find? b.hasMember with
  | some name => .error (.reservedName name)
  | none => .ok { b with ignored := names }

/-- Declares a literal of a class. Names between double underscores and names that are private to
the class declare no members. Any other name can declare one member, but none once it was passed
over. -/
def declare (owner : String) (b : Body) : String × String → Except Failure Body
  | (name, text) =>
    if isPrivate owner name then .ok (b.keep name text)
    else if enclosedBy 1 name.toList then
      if name = ignoreDirective then b.ignore (Text.words text)
      else if directives.contains name then .ok (b.keep name text)
      else .error (.reservedName name)
    else if enclosedBy 2 name.toList then
      .ok (b.keep (if name = "__order__" then orderDirective else name) text)
    else if b.hasMember name then .error (.repeatedName name)
    else if b.ignored.contains name then .ok (b.keep name text)
    else if (b.attributes.lookup name).isSome then .error (.repeatedName name)
    else .ok { b with members := b.members ++ [(name, text)] }

/-- The text of an attribute. Those with an ignored name are dropped in the end. -/
def attribute? (b : Body) (name : String) : Option String :=
  if b.ignored.contains name then none else b.attributes.lookup name

def has (b : Body) (name : String) : Bool := (b.attribute? name).isSome

/-- The slot that the members get. -/
def slot? (b : Body) (owner : String) : Option String :=
  (b.attribute? slotAttribute).map (slotName owner)

/-- What the class has besides its members. -/
def traits (b : Body) (owner : String) : List (String × Trait) :=
  ((b.slot? owner).map fun name => (name, Trait.slot)).toList ++
    (b.attributes.filter fun a => !b.ignored.contains a.1 && !tracelessNames.contains a.1).map
      fun a => (a.1, .text a.2)

/-- Names that no member can have. -/
def nameObjection (b : Body) : Option Failure :=
  (["mro", ""].find? b.hasMember).map .reservedName

/-- The class has something else under a name. -/
def occupied (b : Body) (name : String) : Bool :=
  b.hasMember name || (b.has name && !removedNames.contains name) || builtinNames.contains name ||
    (presetNames.contains name && !b.ignored.contains name)

/-- A slot is one more attribute of every member. Members have two of their own already, and the
place of the slot must be free. -/
def slotObjection (b : Body) (owner : String) : Option Failure :=
  match b.attribute? slotAttribute with
  | none => none
  | some slot =>
    if !Text.isIdentifier slot || ["__dict__", "__weakref__"].contains slot then
      some (.unfitName slot)
    else if b.occupied (slotName owner slot) then some (.reservedName slot)
    else none

/-- An attribute that a text cannot stand in for, because it is about the class. -/
def attributeObjection (b : Body) : Option Failure :=
  if b.has "__classcell__" then some (.unfitName "__classcell__") else none

/-- What is used when members are made cannot be replaced: a text cannot be called. -/
def makingObjection (b : Body) (owner : String) : Option Failure :=
  if b.members.isEmpty then none
  else makingUses.findSome? fun (name, strict) =>
    if b.slot? owner = some name then (if strict then some (.unfilled name) else none)
    else if b.has name then some (.unfitName name)
    else none

/-- The order must list the members that are no aliases, in the order of their declaration. It may
list aliases too, and does not count if it lists nothing. -/
def orderObjection (b : Body) (members : List Member) : Option Failure :=
  let listed := Text.words ((b.attribute? orderDirective).getD "")
  let names := (PropertyClass.distinct members).map (·.name)
  let relevant := listed.filter fun n => names.contains n || !b.hasMember n
  if listed.isEmpty || relevant == names then none else some (.unlisted listed)

end Body

/-- The name of a class holds no null character. -/
def ownerObjection (owner : String) : Option Failure :=
  if '\x00' ∈ owner.toList then some (.reservedName owner) else none

namespace PropertyClass

/-- A new enumeration, unless there is an objection to what its literals have declared. -/
def ofBody (owner : ClassRef) (name : String) (b : Body) : Except Failure PropertyClass :=
  let c := fresh owner name (some b.members) (b.traits name)
  match b.nameObjection <|> b.slotObjection name <|> ownerObjection name <|>
      b.attributeObjection <|> b.makingObjection name <|> b.orderObjection (c.declared.getD []) with
  | some f => .error f
  | none => .ok c

/-- A new class, which is an enumeration if it comes with literals. -/
def create (owner : ClassRef) (name : String) :
    Option (List (String × String)) → Except Failure PropertyClass
  | none =>
    match ownerObjection name with
    | some f => .error f
    | none => .ok (fresh owner name none [])
  | some literals => do ofBody owner name (← literals.foldlM (Body.declare name) {})

/-- A new class has none of the attributes that declarations give. -/
theorem exists_fresh_of_create {owner : ClassRef} {name : String}
    {literals : Option (List (String × String))} {c : PropertyClass}
    (h : create owner name literals = .ok c) :
    ∃ members traits, c = fresh owner name members traits := by
  cases literals with
  | none =>
    rw [create] at h
    split at h
    · cases h
    · exact ⟨none, [], (Except.ok.inj h).symm⟩
  | some literals =>
    rw [create] at h
    cases hb : literals.foldlM (Body.declare name) {} with
    | error f => rw [hb] at h; cases h
    | ok b =>
      rw [hb] at h
      change ofBody owner name b = .ok c at h
      rw [ofBody] at h
      split at h
      · cases h
      · exact ⟨some b.members, b.traits name, (Except.ok.inj h).symm⟩

end PropertyClass

end EditorConfig

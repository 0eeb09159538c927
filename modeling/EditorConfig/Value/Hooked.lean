import EditorConfig.Failure

/-! What the traits of a class do to its members: hooks make operations fail, and a trait named like
the name or the text of a member is found in their place. Writing a value writes all that is in it,
so each member can prevent it, and so can an integer that is too long; only the value itself is
compared or looked up. -/

namespace EditorConfig

namespace Member

/-- The failure of an operation that the class has a hook for. A text cannot be called, and a slot
has nothing to be called; but members are compared and written without a slot that is empty. -/
def obstacle? (m : Member) (h : Hook) : Option Failure :=
  match h, m.hook? h with
  | _, none => none
  | .classification, some _ => some .unclassified
  | .access, some t => some (.notCallable t.typeName)
  | _, some (.text s) => some (.notCallable (Trait.text s).typeName)
  | .equality, some .slot | .inequality, some .slot | .display, some .slot => none
  | .hashing, some .slot => some (.unhashable m.enumeration)
  | h, some .slot => some (.unfilled h.name)

/-- Does what the hook is for, unless the class has the hook. -/
def demand (m : Member) (h : Hook) : Except Failure Unit :=
  match m.obstacle? h with
  | some f => .error f
  | none => .ok ()

/-- The failure of writing the member. The written form shows the class, unless it is replaced. -/
def unwritten? (m : Member) : Option Failure :=
  match m.hook? .display with
  | some _ => m.obstacle? .display
  | none => m.obstacle? .classification

/-- What is found under the name of a part that every member has. -/
def part (m : Member) (name own : String) : Except Failure String :=
  match m.traits.lookup name with
  | none => .ok own
  | some (.text s) => .ok s
  | some .slot => .error (.unfilled name)

/-- The name that is found when a member is asked for it. -/
def givenName (m : Member) : Except Failure String := m.part "name" m.name

/-- The name that stands for the member in an answer. -/
def label (m : Member) : String := m.givenName.toOption.getD m.name

/-- The text that is found when a member is asked for it. -/
def givenText (m : Member) : Except Failure String := m.part "value" m.text

/-- A member that is compared in a way of its own cannot be looked up, for what is the same must be
found in the same place. -/
def unhashed? (m : Member) : Option Failure :=
  match m.hook? .hashing with
  | some _ => m.obstacle? .hashing
  | none => (m.hook? .equality).map fun _ => .unhashable m.enumeration

end Member

namespace Value

/-- The failure of writing a value that holds no others. -/
def unwrittenLeaf? : Value → Option Failure
  | int n => if Text.overlong n then some .overlong else none
  | member m => m.unwritten?
  | _ => none

/-- The failure of writing the value: the first one that is come upon. -/
def unwritten? (v : Value) : Option Failure := v.leaves.findSome? unwrittenLeaf?

@[simp] theorem unwritten?_text (s : String) : (text s).unwritten? = none := rfl

/-- Passes the value on to an answer, which shows the names of all members in it. -/
def shown (v : Value) : Except Failure Value := do
  let _ ← v.members.mapM Member.givenName
  return v

/-- The value can be compared with a text. -/
def equatable : Value → Bool
  | member m => (m.obstacle? .equality).isNone
  | _ => true

/-- The failure of looking the value up. -/
def unhashed? : Value → Option Failure
  | member m => m.unhashed?
  | list items => some (.unhashable (list items).typeName)
  | mapping entries => some (.unhashable (mapping entries).typeName)
  | _ => none

end Value

namespace Failure

/-- A failure whose report shows a value, which must be written for it. -/
def showing (v : Value) (f : Failure) : Failure := v.unwritten?.getD f

@[simp] theorem showing_text (s : String) (f : Failure) : showing (.text s) f = f := rfl

end Failure

/-- The failure of writing the reason. That an integer is too long is reported in its place. -/
def Refusal.unwritten? : Refusal → Option Failure
  | invalid v =>
    match v.unwritten? with
    | some .overlong => none
    | f => f
  | _ => none

/-- The failure that reports issues. The first member that cannot be written comes before all of
them. -/
def Failure.ofIssues (issues : List Issue) : Failure :=
  (issues.findSome? fun i => i.refusal.unwritten?).getD (.invalidFields issues)

end EditorConfig

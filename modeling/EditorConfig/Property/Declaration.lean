import EditorConfig.Property.Basic

/-! Declarations of properties. A declaration gives a class its rule, after the attributes that
belong to the rule, and then its key and its kind. Attributes are given one by one, up to the first
one that cannot be given. -/

namespace EditorConfig

/-- Lowercase letters, digits and underscores, starting with a letter. All of them are ASCII. -/
def isKey (s : String) : Bool :=
  match s.toList with
  | [] => false
  | c :: cs => c.isLower && cs.all fun d => d.isLower || d.isDigit || d == '_'

/-- An attribute with what it is to be. -/
inductive Assignment
  | rule (r : Rule)
  | primitive (p : Primitive)
  | sentinel (s : String)
  | key (key : String)
  | kind (k : Kind)

def Assignment.target : Assignment → Attribute
  | rule _ => .rule
  | primitive _ => .primitive
  | sentinel _ => .sentinel
  | key _ => .key
  | kind _ => .kind

/-- What a declaration gives before it looks at the key. -/
def Rule.assignments : Rule → List Assignment
  | .enumeration => [.rule .enumeration]
  | .scalar p => [.primitive p, .rule (.scalar p)]
  | .optional p sentinel => [.primitive p, .sentinel sentinel, .rule (.optional p sentinel)]

namespace PropertyClass

/-- A class without attributes; an enumeration comes with the names and texts of its members, and
with its traits. -/
def fresh (owner : ClassRef) (name : String) (literals : Option (List (String × String)))
    (traits : List (String × Trait)) : PropertyClass where
  name := name
  declared := literals.map fun ls => ls.map fun l => ⟨owner, name, l.1, l.2, traits⟩
  traits := traits

/-- Why a rule cannot be given to a class: an enumeration needs members, and a sentinel must not
stand for a value of the primitive. -/
def objection (c : PropertyClass) : Rule → Option Failure
  | .enumeration => if c.declared.isSome then none else some (.notEnumeration c.name)
  | .scalar _ => none
  | .optional p sentinel =>
    if (p.parse? sentinel).isSome then some (.sentinelRecognized sentinel p) else none

def assign (c : PropertyClass) : Assignment → PropertyClass
  | .rule r => { c with rule := some r }
  | .primitive p => { c with primitive := some p }
  | .sentinel s => { c with sentinel := some s }
  | .key key => { c with key := some key }
  | .kind k => { c with kind := some k }

/-- Gives attributes in order; what was given before a failure stays. -/
def assignAll (c : PropertyClass) : List Assignment → PropertyClass × Except Failure Unit
  | [] => (c, .ok ())
  | a :: rest =>
    if (c.hider? a.target).isSome then (c, .error (.occupied a.target))
    else (c.assign a).assignAll rest

/-- Gives a rule to the class. A primitive or a sentinel that the rule does not have stays. -/
def install (c : PropertyClass) (r : Rule) : PropertyClass × Except Failure Unit :=
  c.assignAll r.assignments

/-- Gives a key and a kind to the class. -/
def enter (c : PropertyClass) (key : String) (k : Kind) : PropertyClass × Except Failure Unit :=
  c.assignAll [.key key, .kind k]

/-- Declares the class as a property; `refused` is the objection to the key, which is looked at once
the rule is given. -/
def declare (c : PropertyClass) (r : Rule) (key : String) (refused : Option Failure) :
    PropertyClass × Except Failure Unit :=
  match c.objection r with
  | some f => (c, .error f)
  | none =>
    match c.install r, refused with
    | (d, .error f), _ => (d, .error f)
    | (d, .ok ()), some f => (d, .error f)
    | (d, .ok ()), none => d.enter key r.kind

@[simp] theorem hider?_assign (c : PropertyClass) (a : Assignment) :
    (c.assign a).hider? = c.hider? := by
  cases a <;> rfl

/-- Attributes whose places are free are all given. -/
theorem assignAll_of_free {c : PropertyClass} {as : List Assignment}
    (h : ∀ a ∈ as, c.hider? a.target = none) : c.assignAll as = (as.foldl assign c, .ok ()) := by
  induction as generalizing c with
  | nil => rfl
  | cons a rest ih =>
    have ha : c.hider? a.target = none := h a List.mem_cons_self
    have hr : ∀ b ∈ rest, (c.assign a).hider? b.target = none := by
      intro b hb
      rw [hider?_assign]
      exact h b (List.mem_cons_of_mem _ hb)
    rw [assignAll, ha, Option.isSome_none, if_neg (by simp), ih hr, List.foldl_cons]

end PropertyClass

end EditorConfig

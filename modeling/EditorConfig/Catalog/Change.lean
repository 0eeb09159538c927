import EditorConfig.Catalog.Basic
import EditorConfig.Property.Creation

/-! Changes of the catalog. A declaration that fails before its rule is installed changes nothing;
one that fails on its key leaves the rule installed, and only one that succeeds registers the
key. -/

namespace EditorConfig

inductive Change
  /-- Makes a class; an enumeration comes with the literals that declare its members. -/
  | newClass (name : String) (literals : Option (List (String × String)))
  /-- Gives a rule to a class and enters it under a key. -/
  | declare (ref : ClassRef) (r : Rule) (key : String)

namespace Catalog

def newClass (cat : Catalog) (name : String) (literals : Option (List (String × String))) :
    Catalog × Except Failure Unit :=
  match PropertyClass.create (.custom cat.custom.length) name literals with
  | .error f => (cat, .error f)
  | .ok c => ({ cat with custom := cat.custom ++ [c] }, .ok ())

/-- Why a key cannot be registered. -/
def keyObjection (cat : Catalog) (key : String) : Option Failure :=
  if !isKey key then some (.malformedKey key)
  else if cat.knows key then some (.takenKey key)
  else none

def declare (cat : Catalog) (ref : ClassRef) (r : Rule) (key : String) :
    Catalog × Except Failure Unit :=
  match cat.class? ref with
  | none => (cat, .error .noSuchClass)
  | some c =>
    match c.declare r key (cat.keyObjection key) with
    | (d, .error f) => (cat.update ref d, .error f)
    | (d, .ok ()) => ((cat.update ref d).register key ref, .ok ())

def apply (cat : Catalog) : Change → Catalog × Except Failure Unit
  | .newClass name literals => cat.newClass name literals
  | .declare ref r key => cat.declare ref r key

/-- The catalog after changes, whether or not they succeeded. -/
def after (cat : Catalog) (changes : List Change) : Catalog :=
  changes.foldl (fun cat change => (cat.apply change).1) cat

end Catalog

end EditorConfig

import EditorConfig.Catalog.Change

/-! Histories of catalogs. A catalog reaches another one by changes that leave the standard classes
alone; whether the changes succeed does not matter. A class is settled when the rule that it has
came with a declaration that succeeded, so that its other attributes belong to the rule. -/

namespace EditorConfig

/-- A change that is about the classes made later. -/
def Change.Custom : Change → Prop
  | .newClass _ _ => True
  | .declare ref _ _ => ∃ i, ref = .custom i

namespace Catalog

/-- One catalog comes from another by custom changes. -/
inductive Reaches (start : Catalog) : Catalog → Prop
  | refl : Reaches start start
  | step {cat : Catalog} {change : Change} :
      Reaches start cat → change.Custom → Reaches start (cat.apply change).1

def Reachable (cat : Catalog) : Prop := initial.Reaches cat

theorem Reachable.initial : Reachable Catalog.initial := .refl

theorem Reaches.trans {a b c : Catalog} (hab : a.Reaches b) (hbc : b.Reaches c) : a.Reaches c := by
  induction hbc with
  | refl => exact hab
  | step _ hc ih => exact ih.step hc

theorem Reaches.declare {start cat : Catalog} (h : start.Reaches cat) (i : Nat) (r : Rule)
    (key : String) : start.Reaches (cat.declare (.custom i) r key).1 := by
  have step : start.Reaches (cat.apply (.declare (.custom i) r key)).1 := .step h ⟨i, rfl⟩
  exact step

theorem reaches_after {start : Catalog} {changes : List Change} (h : ∀ c ∈ changes, c.Custom) :
    start.Reaches (start.after changes) := by
  induction changes generalizing start with
  | nil => exact .refl
  | cons c rest ih =>
    have hc : start.Reaches (start.apply c).1 := .step .refl (h c List.mem_cons_self)
    exact hc.trans (ih fun d hd => h d (List.mem_cons_of_mem _ hd))

/-- The change is a declaration of the class that gets past the objections to its rule. -/
def Installs (cat : Catalog) (ref : ClassRef) : Change → Prop
  | .newClass _ _ => False
  | .declare target r _ => target = ref ∧ ∃ c, cat.class? ref = some c ∧ c.objection r = none

/-- The last declaration of the class that got past the objections to its rule succeeded. -/
inductive Settled : Catalog → ClassRef → Prop
  | standard (p : StandardProperty) : Settled .initial (.standard p)
  | declared {cat : Catalog} {i : Nat} {r : Rule} {key : String} :
      cat.Reachable → (cat.declare (.custom i) r key).2 = .ok () →
      Settled (cat.declare (.custom i) r key).1 (.custom i)
  | kept {cat : Catalog} {ref : ClassRef} {change : Change} :
      Settled cat ref → change.Custom → ¬ cat.Installs ref change →
      Settled (cat.apply change).1 ref

theorem Settled.reachable {cat : Catalog} {ref : ClassRef} (h : cat.Settled ref) :
    cat.Reachable := by
  induction h with
  | standard => exact .initial
  | declared hcat _ => exact hcat.declare _ _ _
  | kept _ hc _ ih => exact ih.step hc

end Catalog

end EditorConfig

import EditorConfig.Proofs.CatalogOrder
import EditorConfig.Proofs.Inverse

/-! Settings and the texts that they are spelled by: a property has a text exactly if its field is
set, and the field holds what the text stands for. As no two texts stand for the same value, the
entries of the settings are these texts. -/

namespace EditorConfig

theorem StandardProperty.traits_propertyClass (p : StandardProperty) :
    p.propertyClass.traits = [] :=
  (PropertyClass.sameBody_foldl_assign _ _).traits

namespace Catalog

variable {cat : Catalog}

/-- A standard class has nothing in place of the texts of its members. -/
theorem Sound.traits_standard (h : cat.Sound) (p : StandardProperty) :
    (cat.standard p).traits = [] := by
  rw [h.standard]
  exact p.traits_propertyClass

theorem Sound.legible_standard (h : cat.Sound) (p : StandardProperty) :
    (cat.standard p).Legible :=
  fun _ => .inr (by simp [h.traits_standard p])

theorem Sound.distinguishable_standard (h : cat.Sound) (p : StandardProperty) :
    (cat.standard p).Distinguishable :=
  .inr fun s => by simp [h.traits_standard p]

theorem Sound.fits_standard (h : cat.Sound) (p : StandardProperty) :
    (cat.standard p).Fits (.standard p) (cat.keysOf (.standard p)) :=
  h.fits (.standard p) (cat.standard p) rfl

theorem Sound.render_standard_iff (h : cat.Sound) (p : StandardProperty) (s : String) (v : Value) :
    cat.render (cat.standard p) v = .ok s ↔ (cat.standard p).parse s = .ok (some v) :=
  (h.follows_standard p).render_eq_ok_iff (h.fits_standard p)
    (fun _ => h.distinguishable_standard p) s v

end Catalog

namespace Settings

/-- Every field holds what the text of its property stands for. -/
structure SpelledBy (s : Settings) (cat : Catalog) (text : StandardProperty → Option String) :
    Prop where
  unset : ∀ p, text p = none → s.value p = none
  read : ∀ p t, text p = some t →
    ∃ v, s.value p = some v ∧ (cat.standard p).parse t = .ok (some v)

variable {s : Settings} {cat : Catalog} {text : StandardProperty → Option String}

theorem SpelledBy.isSome_value (hs : s.SpelledBy cat text) (p : StandardProperty) :
    (s.value p).isSome = (text p).isSome := by
  cases ht : text p with
  | none => simp [hs.unset p ht]
  | some t =>
    obtain ⟨v, hv, -⟩ := hs.read p t ht
    simp [hv]

/-- The entries of settings are the texts that they are spelled by. -/
theorem SpelledBy.entries_eq (hs : s.SpelledBy cat text) (h : cat.Sound) :
    s.entries cat = .ok (StandardProperty.listed text) := by
  rw [Settings.entries, StandardProperty.listed]
  induction StandardProperty.all with
  | nil => rfl
  | cons p rest ih =>
    cases ht : text p with
    | none =>
      have hv := hs.unset p ht
      simpa only [List.filterMap_cons, hv, ht, Option.map_none] using ih
    | some t =>
      obtain ⟨v, hv, hparse⟩ := hs.read p t ht
      have hrender := (h.render_standard_iff p t v).2 hparse
      simp only [List.filterMap_cons, hv, ht, Option.map_some]
      rw [List.mapM_cons, ih, hrender]
      rfl

end Settings

end EditorConfig

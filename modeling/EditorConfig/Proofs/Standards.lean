import EditorConfig.Settings.View
import EditorConfig.Validation
import EditorConfig.Proofs.SameUse
import EditorConfig.Proofs.Spelling

/-! What is the same in all catalogs. Changes leave the standard classes alone, so whatever looks at
these only, as building settings, writing them, and validating do, does not depend on the other
classes of a catalog. -/

namespace EditorConfig

namespace Catalog

variable {a b : Catalog}

theorem Reachable.standard_eq (ha : a.Reachable) (hb : b.Reachable) : a.standard = b.standard :=
  ha.sound.standard.trans hb.sound.standard.symm

/-- A registered class has all attributes of its kind. -/
theorem Reachable.equipped (h : a.Reachable) {key : String} {c : PropertyClass}
    (hc : a.property? key = some c) : c.Equipped := by
  obtain ⟨ref, hr, hclass⟩ := Option.bind_eq_some_iff.1 hc
  exact (h.sound.fits ref c hclass).equipped (h.sound.keysOf_ne_nil_iff.2 ⟨key, hr⟩)

theorem Reachable.render_standard_eq (ha : a.Reachable) (hb : b.Reachable) (p : StandardProperty)
    (v : Value) : a.render (a.standard p) v = b.render (b.standard p) v := by
  rw [render, render, ha.standard_eq hb]
  exact (PropertyClass.SameUse.refl _).render_eq (hb.equipped (hb.property?_key p)) _ _ v

theorem validate_congr (h : a.standard = b.standard) (raw : Value) :
    a.validate raw = b.validate raw := by
  have hcheck : a.check = b.check := by
    funext properties p
    rw [check, check, h]
  rw [validate, validate, hcheck]

end Catalog

namespace Settings

variable {a b : Catalog}

theorem ofFields_congr (h : a.standard = b.standard) (given : StandardProperty → Value) :
    ofFields a given = ofFields b given := by
  have hissues : issues a given = issues b given := by rw [issues, issues, h]
  rw [ofFields, ofFields, hissues, h]

theorem ofMapping_congr (h : a.standard = b.standard) (entries : List (Value × Value)) :
    ofMapping a entries = ofMapping b entries := by
  rw [ofMapping, ofMapping, ofFields_congr h]

theorem entries_congr (ha : a.Reachable) (hb : b.Reachable) (s : Settings) :
    s.entries a = s.entries b := by
  rw [entries, entries]
  simp only [ha.render_standard_eq hb]

/-- Settings look the same in all catalogs. -/
theorem view_congr (ha : a.Reachable) (hb : b.Reachable) (dump : Yaml.Dump) (s : Settings) :
    s.view dump a = s.view dump b := by
  rw [view, view, yaml, yaml, text, text, entries_congr ha hb]

end Settings

end EditorConfig

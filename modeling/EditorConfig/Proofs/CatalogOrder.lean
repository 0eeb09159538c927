import Mathlib.Data.List.Nodup
import EditorConfig.Properties
import EditorConfig.Proofs.DistinctKeys
import EditorConfig.StandardProperty

/-! Texts of standard properties, listed with their keys in catalog order. A property is listed once
at most, so the list is itself a mapping, which holds for every property the text that it has. -/

namespace EditorConfig

namespace StandardProperty

/-- The texts that standard properties have, with their keys, in catalog order. -/
def listed (text : StandardProperty → Option String) : List (String × String) :=
  all.filterMap fun p => (text p).map fun s => (p.key, s)

variable {text : StandardProperty → Option String}

theorem mem_listed {key s : String} :
    (key, s) ∈ listed text ↔ ∃ p, p.key = key ∧ text p = some s := by
  simp only [listed, List.mem_filterMap, mem_all, true_and, Option.map_eq_some_iff, Prod.mk.injEq]
  constructor
  · rintro ⟨p, t, ht, hk, rfl⟩
    exact ⟨p, hk, ht⟩
  · rintro ⟨p, hk, ht⟩
    exact ⟨p, s, ht, hk, rfl⟩

/-- The keys are those of the properties that have a text. -/
theorem map_fst_listed (text : StandardProperty → Option String) :
    (listed text).map Prod.fst = (all.filter fun p => (text p).isSome).map key := by
  have hkey : ∀ p, ((text p).map fun s => (p.key, s)).map Prod.fst =
      (Option.guard (fun p => (text p).isSome) p).map key := by
    intro p
    cases h : text p <;> simp [Option.guard, h]
  rw [listed, List.map_filterMap]
  simp only [hkey]
  rw [← List.map_filterMap, List.filterMap_eq_filter]

/-- Keys are listed in catalog order, each of them once at most. -/
theorem sublist_map_fst_listed (text : StandardProperty → Option String) :
    ((listed text).map Prod.fst).Sublist (all.map key) := by
  rw [map_fst_listed]
  exact List.filter_sublist.map key

theorem nodup_map_fst_listed (text : StandardProperty → Option String) :
    ((listed text).map Prod.fst).Nodup := by
  have hall : (all.map key).Nodup := nodup_all.map fun p q h => key_injective h
  exact hall.sublist (sublist_map_fst_listed text)

theorem nodup_listed (text : StandardProperty → Option String) : (listed text).Nodup :=
  (nodup_map_fst_listed text).of_map Prod.fst

theorem lookup_listed (text : StandardProperty → Option String) (p : StandardProperty) :
    (listed text).lookup p.key = text p := by
  refine Option.ext fun s => ?_
  rw [Entries.lookup_eq_some_iff_mem (nodup_map_fst_listed text), mem_listed]
  constructor
  · rintro ⟨q, hq, hs⟩
    rw [← key_injective hq]
    exact hs
  · exact fun hs => ⟨p, rfl, hs⟩

theorem listed_eq_nil_iff : listed text = [] ↔ ∀ p, text p = none := by
  simp [listed, List.filterMap_eq_nil_iff]

theorem isSome_ofKey?_iff {key : String} :
    (ofKey? key).isSome ↔ ∃ p : StandardProperty, p.key = key := by
  constructor
  · intro h
    obtain ⟨p, hp⟩ := Option.isSome_iff_exists.1 h
    exact ⟨p, key_of_ofKey? hp⟩
  · rintro ⟨p, rfl⟩
    simp

/-- What stands under keys of standard properties in a list of texts is listed by these. -/
theorem perm_listed {entries : List (String × String)} (hd : entries.Nodup)
    (h : ∀ p s, text p = some s ↔ (p.key, s) ∈ entries) :
    (listed text).Perm (entries.filter fun e => (ofKey? e.1).isSome) := by
  refine (List.perm_ext_iff_of_nodup (nodup_listed text) (hd.filter _)).2 ?_
  rintro ⟨key, s⟩
  rw [mem_listed, List.mem_filter, isSome_ofKey?_iff]
  constructor
  · rintro ⟨p, rfl, hs⟩
    exact ⟨(h p s).1 hs, p, rfl⟩
  · rintro ⟨hmem, p, rfl⟩
    exact ⟨p, rfl, (h p s).2 hmem⟩

end StandardProperty

/-- The mapping from keys of standard properties to their texts. -/
def Properties.ofTexts (text : StandardProperty → Option String) : Properties where
  entries := StandardProperty.listed text
  nodup := StandardProperty.nodup_map_fst_listed text

@[simp] theorem Properties.lookup?_ofTexts (text : StandardProperty → Option String)
    (p : StandardProperty) : (ofTexts text).lookup? p.key = text p :=
  StandardProperty.lookup_listed text p

end EditorConfig

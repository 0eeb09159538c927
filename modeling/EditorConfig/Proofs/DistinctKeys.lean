import EditorConfig.Value.Mapping

/-! Look-ups in entries whose keys are all different: a key is listed with one value. A mapping
whose keys are texts is looked up as the list of them. -/

namespace EditorConfig.Entries

variable {κ ν : Type} [BEq κ] [LawfulBEq κ]

theorem mem_of_lookup {entries : List (κ × ν)} {key : κ} {value : ν}
    (h : entries.lookup key = some value) : (key, value) ∈ entries := by
  obtain ⟨before, after, rfl, -⟩ := List.lookup_eq_some_iff.1 h
  simp

theorem lookup_eq_some_iff_mem {entries : List (κ × ν)} (h : (entries.map Prod.fst).Nodup)
    {key : κ} {value : ν} : entries.lookup key = some value ↔ (key, value) ∈ entries := by
  refine ⟨mem_of_lookup, fun hmem => ?_⟩
  obtain ⟨before, after, rfl⟩ := List.append_of_mem hmem
  refine List.lookup_eq_some_iff.2 ⟨before, after, rfl, ?_⟩
  intro e he
  rw [List.map_append, List.nodup_append] at h
  have hne : e.1 ≠ key := h.2.2 e.1 (List.mem_map_of_mem he) key (by simp)
  simpa using Ne.symm hne

theorem lookup_isSome_iff_mem {entries : List (κ × ν)} {key : κ} :
    (entries.lookup key).isSome ↔ key ∈ entries.map Prod.fst := by
  rw [List.lookup_isSome_iff, List.mem_map]
  exact exists_congr fun e => and_congr_right fun _ => by rw [beq_iff_eq, eq_comm]

theorem lookup_eq_none_iff_not_mem {entries : List (κ × ν)} {key : κ} :
    entries.lookup key = none ↔ key ∉ entries.map Prod.fst := by
  rw [← lookup_isSome_iff_mem, Option.not_isSome_iff_eq_none]

/-- Filtered entries keep their keys, so the only entry of a key decides what is found under it. -/
theorem lookup_filterMap {μ : Type} {entries : List (κ × ν)} (h : (entries.map Prod.fst).Nodup)
    (f : κ → ν → Option μ) (key : κ) :
    (entries.filterMap fun e => (f e.1 e.2).map (Prod.mk e.1)).lookup key =
      (entries.lookup key).bind (f key) := by
  induction entries with
  | nil => rfl
  | cons e rest ih =>
    obtain ⟨k, value⟩ := e
    rw [List.map_cons, List.nodup_cons] at h
    by_cases hk : key = k
    · subst hk
      have hrest : rest.lookup key = none := lookup_eq_none_iff_not_mem.2 h.1
      cases hf : f key value with
      | none => simp [hf, ih h.2, hrest]
      | some x => simp [hf]
    · have hb : (key == k) = false := beq_eq_false_iff_ne.2 hk
      cases hf : f k value <;> simp [hf, List.lookup_cons, hb, ih h.2]

end EditorConfig.Entries

namespace EditorConfig.Value

/-- A mapping with texts as keys holds under a text what is listed for it. -/
theorem entry?_map {ν : Type} (f : ν → Value) (key : String) (entries : List (String × ν)) :
    entry? key (entries.map fun e => (.text e.1, f e.2)) = (entries.lookup key).map f := by
  induction entries with
  | nil => rfl
  | cons e rest ih =>
    obtain ⟨k, x⟩ := e
    by_cases h : k = key
    · subst h
      simp [Value.entry?, Entries.lookup?]
    · have hfound : (k == key) = false := beq_eq_false_iff_ne.2 h
      have hlisted : (key == k) = false := beq_eq_false_iff_ne.2 (Ne.symm h)
      rw [List.lookup_cons, hlisted]
      simpa [Value.entry?, Entries.lookup?, hfound] using ih

end EditorConfig.Value

/-! Entries of a mapping, listed in the order in which their keys were first written. Writing a key
again keeps its place and replaces its value, so each key is listed once. -/

namespace EditorConfig.Entries

variable {κ ν : Type}

/-- Writes one entry; `same` says when two keys are the same one. -/
def put (same : κ → κ → Bool) (key : κ) (value : ν) : List (κ × ν) → List (κ × ν)
  | [] => [(key, value)]
  | e :: rest => if same e.1 key then (e.1, value) :: rest else e :: put same key value rest

/-- Writes pairs one after another. -/
def ofPairs (same : κ → κ → Bool) (pairs : List (κ × ν)) : List (κ × ν) :=
  pairs.foldl (fun entries p => put same p.1 p.2 entries) []

/-- The value listed for a key. -/
def lookup? (same : κ → κ → Bool) (key : κ) (entries : List (κ × ν)) : Option ν :=
  (entries.find? fun e => same e.1 key).map Prod.snd

theorem map_fst_put (same : κ → κ → Bool) (key : κ) (value : ν) (entries : List (κ × ν)) :
    (put same key value entries).map Prod.fst =
      if entries.any (fun e => same e.1 key) then entries.map Prod.fst
      else entries.map Prod.fst ++ [key] := by
  induction entries with
  | nil => simp [put]
  | cons e rest ih =>
    cases h : same e.1 key with
    | true => simp [put, h]
    | false =>
      rw [put, if_neg (by simp [h]), List.map_cons, ih, List.any_cons, h, Bool.false_or,
        List.map_cons, List.cons_append, ← apply_ite (e.1 :: ·)]

theorem nodup_put [BEq κ] [LawfulBEq κ] {key : κ} {value : ν} {entries : List (κ × ν)}
    (h : (entries.map Prod.fst).Nodup) :
    ((put (· == ·) key value entries).map Prod.fst).Nodup := by
  rw [map_fst_put]
  split
  · exact h
  · rename_i hk
    simp only [List.any_eq_true, beq_iff_eq, not_exists, not_and] at hk
    refine List.nodup_append.2 ⟨h, by simp, ?_⟩
    intro a ha b hb
    obtain ⟨e, he, rfl⟩ := List.mem_map.1 ha
    rw [List.mem_singleton.1 hb]
    exact hk e he

theorem nodup_ofPairs [BEq κ] [LawfulBEq κ] (pairs : List (κ × ν)) :
    ((ofPairs (· == ·) pairs).map Prod.fst).Nodup := by
  suffices h : ∀ es : List (κ × ν), (es.map Prod.fst).Nodup →
      ((pairs.foldl (fun es p => put (· == ·) p.1 p.2 es) es).map Prod.fst).Nodup from
    h [] List.nodup_nil
  induction pairs with
  | nil => exact fun _ h => h
  | cons p rest ih => exact fun entries h => ih _ (nodup_put h)

theorem put_of_not_mem [BEq κ] [LawfulBEq κ] {key : κ} {value : ν} {entries : List (κ × ν)}
    (h : key ∉ entries.map Prod.fst) :
    put (· == ·) key value entries = entries ++ [(key, value)] := by
  induction entries with
  | nil => rfl
  | cons e rest ih =>
    rw [List.map_cons, List.mem_cons, not_or] at h
    have hb : ¬ (e.1 == key) = true := by simpa using Ne.symm h.1
    rw [put, if_neg hb, ih h.2, List.cons_append]

/-- Where all keys are different, a key is none of those before it. -/
theorem not_mem_of_nodup {before after : List (κ × ν)} {e : κ × ν}
    (h : ((before ++ e :: after).map Prod.fst).Nodup) : e.1 ∉ before.map Prod.fst := by
  intro hmem
  rw [List.map_append, List.nodup_append] at h
  exact h.2.2 _ hmem _ (by simp) rfl

/-- Pairs with different keys are entries already. -/
theorem ofPairs_of_nodup [BEq κ] [LawfulBEq κ] {pairs : List (κ × ν)}
    (h : (pairs.map Prod.fst).Nodup) : ofPairs (· == ·) pairs = pairs := by
  suffices hs : ∀ entries : List (κ × ν), ((entries ++ pairs).map Prod.fst).Nodup →
      pairs.foldl (fun entries p => put (· == ·) p.1 p.2 entries) entries = entries ++ pairs from
    hs [] h
  clear h
  induction pairs with
  | nil => exact fun entries _ => (List.append_nil entries).symm
  | cons p rest ih =>
    intro entries h
    rw [List.foldl_cons, put_of_not_mem (not_mem_of_nodup h), ih]
    · simp
    · simpa using h

end EditorConfig.Entries

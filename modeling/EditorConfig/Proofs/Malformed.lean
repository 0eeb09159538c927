import EditorConfig.Proofs.Served
import EditorConfig.Proofs.Validated

/-! Values that are no mapping from texts to texts. Such a value is reported by the first of its
entries that is not made of texts, before any entry is taken; resolution in both modes and
validation have the same report. On any other value none of them has a report of this kind. -/

namespace EditorConfig

theorem Entries.mem_of_mem_ofPairs {κ ν : Type} [BEq κ] [LawfulBEq κ] {pairs : List (κ × ν)}
    {key : κ} (h : key ∈ (ofPairs (· == ·) pairs).map Prod.fst) : key ∈ pairs.map Prod.fst := by
  suffices hs : ∀ entries : List (κ × ν),
      key ∈ (pairs.foldl (fun es p => put (· == ·) p.1 p.2 es) entries).map Prod.fst →
        key ∈ entries.map Prod.fst ∨ key ∈ pairs.map Prod.fst from
    (hs [] h).resolve_left List.not_mem_nil
  clear h
  induction pairs with
  | nil => exact fun _ h => .inl h
  | cons p rest ih =>
    intro entries h
    rcases ih _ h with hput | hrest
    · rw [map_fst_put] at hput
      split at hput
      · exact .inl hput
      · rcases List.mem_append.1 hput with hentries | hp
        · exact .inl hentries
        · exact .inr (List.mem_singleton.1 hp ▸ List.mem_cons_self)
    · exact .inr (List.mem_cons_of_mem _ hrest)

namespace Value

/-- Entries that are made of texts. -/
def textual (pairs : List (String × String)) : List (Value × Value) :=
  pairs.map fun e => (.text e.1, .text e.2)

/-- What is wrong with a value, as a sentence. The first entry with a key or a value that is no text
is to blame, its key before its value. -/
inductive Malformed : Value → String → Prop
  | notMapping {v : Value} (h : ∀ entries, v ≠ .mapping entries) :
      Malformed v ("Properties must be a mapping, got " ++ v.typeName)
  | keyNotText (pairs : List (String × String)) {k : Value} (v : Value)
      (rest : List (Value × Value)) (h : ∀ s, k ≠ .text s) :
      Malformed (.mapping (textual pairs ++ (k, v) :: rest))
        ("Property key must be a string, got " ++ k.typeName)
  | valueNotText (pairs : List (String × String)) (k : String) {v : Value}
      (rest : List (Value × Value)) (h : ∀ s, v ≠ .text s) :
      Malformed (.mapping (textual pairs ++ (.text k, v) :: rest))
        ("Value for " ++ k ++ " must be a string, got " ++ v.typeName)

theorem textEntry_of_key {k : Value} (v : Value) (h : ∀ s, k ≠ .text s) :
    textEntry (k, v) = .error (.keyNotText k) := by
  cases k <;> first | rfl | exact absurd rfl (h _)

theorem textEntry_of_value (k : String) {v : Value} (h : ∀ s, v ≠ .text s) :
    textEntry (.text k, v) = .error (.valueNotText k v) := by
  cases v <;> first | rfl | exact absurd rfl (h _)

/-- The first entry that is not made of texts is the one that is reported. -/
theorem mapM_textEntry_eq_error (pairs : List (String × String)) {e : Value × Value}
    (rest : List (Value × Value)) {f : Failure} (h : textEntry e = .error f) :
    (textual pairs ++ e :: rest).mapM textEntry = .error f := by
  rw [List.mapM_append, textual, mapM_textEntry, List.mapM_cons, h]
  rfl

theorem properties_textual (pairs : List (String × String)) :
    (mapping (textual pairs)).properties = .ok (.ofPairs pairs) := by
  rw [properties, textual, mapM_textEntry]
  rfl

/-- Some entry is the first that is not made of texts, or all are. -/
theorem exists_malformed_or_textual (v : Value) :
    (∃ m, v.Malformed m) ∨ ∃ pairs, v = .mapping (textual pairs) := by
  have hentries : ∀ entries before, (∃ m, (mapping (textual before ++ entries)).Malformed m) ∨
      ∃ pairs, mapping (textual before ++ entries) = .mapping (textual pairs) := by
    intro entries
    -- `before` are the entries already looked at, all of them made of texts
    induction entries with
    | nil => exact fun before => .inr ⟨before, by rw [List.append_nil]⟩
    | cons e rest ih =>
      intro before
      obtain ⟨k, v⟩ := e
      by_cases hk : ∃ s, k = .text s
      · by_cases hv : ∃ s, v = .text s
        · obtain ⟨s, rfl⟩ := hk
          obtain ⟨t, rfl⟩ := hv
          simpa [textual] using ih (before ++ [(s, t)])
        · obtain ⟨s, rfl⟩ := hk
          exact .inl ⟨_, .valueNotText before s rest fun t ht => hv ⟨t, ht⟩⟩
      · exact .inl ⟨_, .keyNotText before v rest fun s hs => hk ⟨s, hs⟩⟩
  cases v with
  | mapping entries => exact hentries entries []
  | _ => exact .inl ⟨_, .notMapping (by simp)⟩

namespace Malformed

variable {v : Value} {m : String}

/-- The failure that has the sentence as its report. -/
theorem exists_properties_eq_error (h : v.Malformed m) :
    ∃ f : Failure, v.properties = .error f ∧ f.message = some m ∧ f.unresolvable = true := by
  cases h with
  | notMapping h =>
    refine ⟨.notMapping v, ?_, rfl, rfl⟩
    cases v with
    | mapping entries => exact absurd rfl (h entries)
    | _ => rfl
  | keyNotText pairs w rest h =>
    refine ⟨.keyNotText _, ?_, rfl, rfl⟩
    rw [properties, mapM_textEntry_eq_error pairs rest (textEntry_of_key w h)]
    rfl
  | valueNotText pairs k rest h =>
    refine ⟨.valueNotText k _, ?_, rfl, rfl⟩
    rw [properties, mapM_textEntry_eq_error pairs rest (textEntry_of_value k h)]
    rfl

end Malformed

theorem not_malformed_textual (pairs : List (String × String)) (m : String) :
    ¬ (mapping (textual pairs)).Malformed m := by
  intro h
  obtain ⟨f, hf, -⟩ := h.exists_properties_eq_error
  rw [properties_textual] at hf
  cases hf

end Value

/-- The first ten characters of a sentence tell what kind of report it is. -/
def opening (sentence : String) : List Char := sentence.toList.take 10

theorem opening_append {s : String} (t : String) (h : 10 ≤ s.toList.length) :
    opening (s ++ t) = opening s := by
  rw [opening, String.toList_append, List.take_append_of_le_length h, opening]

theorem Value.Malformed.opening_mem {v : Value} {m : String} (h : v.Malformed m) :
    opening m ∈ ["Properties".toList, "Property k".toList, "Value for ".toList] := by
  cases h with
  | notMapping =>
    rw [opening_append _ (by decide)]
    decide
  | keyNotText =>
    rw [opening_append _ (by decide)]
    decide
  | valueNotText pairs k =>
    rw [String.append_assoc, String.append_assoc,
      opening_append _ (by decide : 10 ≤ "Value for ".toList.length)]
    decide

theorem opening_unrecognizedText (key : String) (raw : Value) :
    opening (unrecognizedText key raw) = "Unrecogniz".toList := by
  have hopens : unrecognizedText key raw =
      "Unrecognized value for " ++ (key ++ (": " ++ raw.written)) := by
    unfold unrecognizedText
    simp only [String.append_assoc]
  rw [hopens]
  exact (opening_append _ (by decide)).trans (by decide)

theorem Failure.opening_strictWarnings {warnings : List String} {m : String}
    (h : (strictWarnings warnings).message = some m) : opening m = "Property w".toList := by
  rw [← Option.some.inj h, opening_append _ (by decide)]
  decide

namespace Catalog

variable {cat : Catalog}

theorem resolve_textual (cat : Catalog) (strict : Bool) (pairs : List (String × String)) :
    cat.resolve strict (.mapping (Value.textual pairs)) =
      cat.resolve strict (Properties.ofPairs pairs).toValue := by
  rw [resolve, resolve, Value.properties_textual, Value.properties_toValue]

theorem validate_textual (cat : Catalog) (pairs : List (String × String)) :
    cat.validate (.mapping (Value.textual pairs)) =
      cat.validate (Properties.ofPairs pairs).toValue := by
  rw [validate, validate, Value.properties_textual, Value.properties_toValue]

/-- Pairs with the same key make one entry, which is read like any of them. -/
theorem Reads.ofPairs {pairs : List (String × String)} (h : cat.Reads pairs) :
    cat.Reads (Properties.ofPairs pairs).entries := by
  intro e he c hc
  obtain ⟨p, hp, hkey⟩ :=
    List.mem_map.1 (Entries.mem_of_mem_ofPairs (List.mem_map_of_mem (f := Prod.fst) he))
  exact h p hp c (hkey ▸ hc)

/-- A malformed value has the same report everywhere, and nothing is logged before it. -/
theorem reports_malformed (cat : Catalog) {raw : Value} {m : String} (hm : raw.Malformed m) :
    (∃ f : Failure, f.message = some m ∧ f.unresolvable = true ∧
      ∀ strict, cat.resolve strict raw = ⟨[], .error f⟩) ∧ cat.validate raw = .ok [m] := by
  obtain ⟨f, hf, hmessage, hu⟩ := hm.exists_properties_eq_error
  refine ⟨⟨f, hmessage, hu, fun strict => ?_⟩, ?_⟩
  · rw [resolve, hf]
  · rw [validate, hf]
    simp only [hu, hmessage, if_true, Option.toList_some]

/-- What is reported on entries made of texts is no report on a malformed value. -/
theorem Reachable.message_ne_of_textual (h : cat.Reachable) {strict : Bool}
    {pairs : List (String × String)} {f : Failure} {v : Value} {m : String} (hm : v.Malformed m)
    (hf : (cat.resolve strict (.mapping (Value.textual pairs))).result = .error f) :
    f.message ≠ some m := by
  intro hmessage
  rw [resolve_textual] at hf
  rcases h.resolve_eq_error hf with ⟨rfl, -⟩ | ⟨rfl, -⟩
  · have hopens := hm.opening_mem
    rw [Failure.opening_strictWarnings hmessage] at hopens
    revert hopens
    decide
  · cases hmessage

theorem Reachable.exists_validate_textual (h : cat.Reachable) (pairs : List (String × String)) :
    ∃ reports, cat.validate (.mapping (Value.textual pairs)) = .ok reports ∧
      ∀ v m, Value.Malformed v m → m ∉ reports := by
  refine ⟨_, (validate_textual cat pairs).trans (validate_eq h _), fun v m hm hmem => ?_⟩
  obtain ⟨e, -, rfl⟩ := List.mem_map.1 hmem
  have hopens := hm.opening_mem
  rw [← unrecognizedText_text, opening_unrecognizedText] at hopens
  revert hopens
  decide

theorem Reachable.unresolvable_of_textual (h : cat.Reachable) {strict : Bool}
    {pairs : List (String × String)} (hreads : cat.Reads pairs) {f : Failure}
    (hf : (cat.resolve strict (.mapping (Value.textual pairs))).result = .error f) :
    f.unresolvable = true := by
  rw [resolve_textual] at hf
  rcases h.resolve_eq_error hf with ⟨rfl, -⟩ | ⟨-, hunread⟩
  · rfl
  · exact absurd hreads.ofPairs hunread

/-- Malformed values are refused by all operations alike, and nothing else is refused as one. -/
theorem malformed_refused (h : cat.Reachable) (raw : Value) :
    (∀ m, raw.Malformed m →
      (∃ f : Failure, f.message = some m ∧ f.unresolvable = true ∧
        ∀ strict, cat.resolve strict raw = ⟨[], .error f⟩) ∧ cat.validate raw = .ok [m]) ∧
    ((¬ ∃ m, raw.Malformed m) ↔ ∃ pairs, raw = .mapping (Value.textual pairs)) ∧
    ((¬ ∃ m, raw.Malformed m) → ∀ v m, Value.Malformed v m →
      (∀ strict f, (cat.resolve strict raw).result = .error f → f.message ≠ some m) ∧
      ∀ reports, cat.validate raw = .ok reports → m ∉ reports) ∧
    (∃ reports, cat.validate raw = .ok reports) ∧
    ((∀ pairs, raw = .mapping (Value.textual pairs) → cat.Reads pairs) →
      ∀ strict f, (cat.resolve strict raw).result = .error f → f.unresolvable = true) := by
  have hreports := fun m (hm : raw.Malformed m) => reports_malformed cat hm
  rcases raw.exists_malformed_or_textual with ⟨m, hm⟩ | ⟨pairs, rfl⟩
  · obtain ⟨⟨f, -, hu, hresolve⟩, hvalidate⟩ := hreports m hm
    refine ⟨hreports, ⟨fun hnone => absurd ⟨m, hm⟩ hnone, ?_⟩, fun hnone => absurd ⟨m, hm⟩ hnone,
      ⟨_, hvalidate⟩, fun _ strict g hg => ?_⟩
    · rintro ⟨pairs, rfl⟩
      exact absurd hm (Value.not_malformed_textual pairs m)
    · rw [hresolve strict] at hg
      cases hg
      exact hu
  · have hnone : ¬ ∃ m, (Value.mapping (Value.textual pairs)).Malformed m := by
      rintro ⟨m, hm⟩
      exact Value.not_malformed_textual pairs m hm
    obtain ⟨reports, hvalidate, hkinds⟩ := h.exists_validate_textual pairs
    refine ⟨hreports, iff_of_true hnone ⟨pairs, rfl⟩, fun _ v m hm => ⟨fun strict f hf =>
      h.message_ne_of_textual hm hf, fun others hothers => ?_⟩, ⟨reports, hvalidate⟩,
      fun hreads strict f hf => h.unresolvable_of_textual (hreads pairs rfl) hf⟩
    rw [hvalidate] at hothers
    cases hothers
    exact hkinds v m hm

/-- The first entry that is not made of texts comes after an unrecognized text and an unknown key,
and before another one. -/
def malformedEntries : List (Value × Value) :=
  [(.text "tab_width", .text "08"), (.text "root", .text "true"), (.null, .int 4),
    (.text "wrap", .list [])]

/-- The key is reported in preference to its value, and in preference to what stands around it. -/
theorem malformed_refused_twice :
    twice.Reachable ∧
      (∃ f : Failure, f.message = some "Property key must be a string, got NoneType" ∧
        ∀ strict, twice.resolve strict (.mapping malformedEntries) = ⟨[], .error f⟩) ∧
      twice.validate (.mapping malformedEntries) =
        .ok ["Property key must be a string, got NoneType"] ∧
      ∃ f, (twice.resolve true rejectedProperties.toValue).result = .error f ∧
        f.unresolvable = true := by
  obtain ⟨hreports, -⟩ := malformed_refused reachable_twice (.mapping malformedEntries)
  have hm : (Value.mapping malformedEntries).Malformed
      "Property key must be a string, got NoneType" :=
    .keyNotText [("tab_width", "08"), ("root", "true")] (.int 4) _ (by simp)
  obtain ⟨⟨f, hmessage, -, hresolve⟩, hvalidate⟩ := hreports _ hm
  have hlegible : twice.Legible := by decide +kernel
  have hwarnings : (twice.resolution rejectedProperties).warnings ≠ [] := by decide +kernel
  obtain ⟨-, -, -, -, hkinds⟩ := malformed_refused reachable_twice rejectedProperties.toValue
  have hrun := resolve_eq reachable_twice
    (hlegible.reads reachable_twice.sound rejectedProperties.entries) true
  rw [if_pos ⟨rfl, hwarnings⟩] at hrun
  have hresult := congrArg Run.result hrun
  exact ⟨reachable_twice, ⟨f, hmessage, hresolve⟩, hvalidate, _, hresult,
    hkinds (fun pairs _ => hlegible.reads reachable_twice.sound pairs) true _ hresult⟩

/-- An entry whose members have an empty slot in place of texts ends a resolution without a
report. -/
theorem not_malformed_refused :
    slotted.Reachable ∧ ∃ f, (slotted.resolve false slottedProperties.toValue).result = .error f ∧
      f.unresolvable = false :=
  ⟨reachable_enumerated _, _, rfl, rfl⟩

end Catalog

end EditorConfig

import EditorConfig.Proofs.Quotation
import EditorConfig.Proofs.Validated

/-! The message of strict mode. It joins the warnings by a separator that the texts in them may
imitate, but a key has no colon and a quoted text tells where it ends, so the unrecognized entries
can be read off the message. -/

namespace EditorConfig

/-- The report on an unrecognized entry. -/
def entryReport (e : String × String) : String :=
  "Unrecognized value for " ++ e.1 ++ ": " ++ Text.quoted e.2

theorem toList_entryReport (e : String × String) :
    (entryReport e).toList = "Unrecognized value for ".toList ++
      (e.1.toList ++ ':' :: ' ' :: Text.enclosed Text.isPrintable e.2.toList) := by
  have hseparator : ": ".toList = [':', ' '] := rfl
  unfold entryReport
  simp only [String.toList_append, Text.toList_quoted, hseparator, List.append_assoc,
    List.cons_append, List.nil_append]

theorem append_colon_inj {xs ys zs ws : List Char} (hx : ':' ∉ xs) (hy : ':' ∉ ys)
    (h : xs ++ ':' :: zs = ys ++ ':' :: ws) : xs = ys ∧ zs = ws := by
  have hsplit := congrArg (List.splitOn ':') h
  rw [List.splitOn_append_cons_self_of_not_mem hx, List.splitOn_append_cons_self_of_not_mem hy]
    at hsplit
  obtain ⟨rfl, -⟩ := List.cons.inj hsplit
  exact ⟨rfl, (List.cons.inj (List.append_cancel_left h)).2⟩

/-- A report tells where it ends. -/
theorem entryReport_append_inj {e d : String × String} (he : ':' ∉ e.1.toList)
    (hd : ':' ∉ d.1.toList) {xs ys : List Char}
    (h : (entryReport e).toList ++ xs = (entryReport d).toList ++ ys) : e = d ∧ xs = ys := by
  simp only [toList_entryReport, List.append_assoc, List.append_cancel_left_eq,
    List.cons_append] at h
  obtain ⟨hkey, hvalue⟩ := append_colon_inj he hd h
  obtain ⟨htext, hrest⟩ := Text.enclosed_append_inj (List.cons.inj hvalue).2
  exact ⟨Prod.ext (String.toList_injective hkey) (String.toList_injective htext), hrest⟩

/-- What stands behind the first of several reports. -/
def furtherReports : List (String × String) → List Char
  | [] => []
  | e :: rest => ';' :: ' ' :: ((entryReport e).toList ++ furtherReports rest)

theorem toList_intercalate_cons (e : String × String) (rest : List (String × String)) :
    ("; ".intercalate ((e :: rest).map entryReport)).toList =
      (entryReport e).toList ++ furtherReports rest := by
  induction rest generalizing e with
  | nil => rw [List.map_singleton, String.intercalate_singleton, furtherReports, List.append_nil]
  | cons d rest ih =>
    have hseparator : "; ".toList = [';', ' '] := rfl
    rw [List.map_cons, List.map_cons, String.intercalate_cons_cons, String.toList_append,
      String.toList_append, ← List.map_cons, ih, hseparator, furtherReports, List.append_assoc]
    rfl

section Keys

variable {es ds : List (String × String)} (he : ∀ e ∈ es, ':' ∉ e.1.toList)
  (hd : ∀ d ∈ ds, ':' ∉ d.1.toList)

include he hd

theorem furtherReports_inj (h : furtherReports es = furtherReports ds) : es = ds := by
  induction es generalizing ds with
  | nil =>
    cases ds with
    | nil => rfl
    | cons d ds => cases h
  | cons e es ih =>
    cases ds with
    | nil => cases h
    | cons d ds =>
      have hreports := (List.cons.inj (List.cons.inj h).2).2
      obtain ⟨rfl, hrest⟩ := entryReport_append_inj (he e List.mem_cons_self)
        (hd d List.mem_cons_self) hreports
      rw [ih (fun x hx => he x (List.mem_cons_of_mem e hx))
        (fun x hx => hd x (List.mem_cons_of_mem e hx)) hrest]

/-- Joined reports tell which entries they are about, also if these imitate the separator. -/
theorem intercalate_entryReport_inj
    (h : "; ".intercalate (es.map entryReport) = "; ".intercalate (ds.map entryReport)) :
    es = ds := by
  have hempty : ∀ (e : String × String) (rest : List (String × String)),
      "; ".intercalate ((e :: rest).map entryReport) ≠ "" := by
    intro e rest hnone
    have hchars := congrArg String.toList hnone
    rw [toList_intercalate_cons, toList_entryReport] at hchars
    cases hchars
  cases es with
  | nil =>
    cases ds with
    | nil => rfl
    | cons d ds => exact absurd h.symm (hempty d ds)
  | cons e es =>
    cases ds with
    | nil => exact absurd h (hempty e es)
    | cons d ds =>
      -- With a separator in front, joined reports are what stands behind a first one.
      refine furtherReports_inj he hd ?_
      rw [furtherReports, furtherReports, ← toList_intercalate_cons, ← toList_intercalate_cons, h]

end Keys

theorem colon_not_mem_of_isKey {key : String} (h : isKey key) : ':' ∉ key.toList := by
  unfold isKey at h
  cases hkey : key.toList with
  | nil => exact List.not_mem_nil
  | cons c cs =>
    simp only [hkey, Bool.and_eq_true, List.all_eq_true] at h
    obtain ⟨hc, hcs⟩ := h
    rw [List.mem_cons, not_or]
    refine ⟨?_, fun hmem => absurd (hcs ':' hmem) (by decide)⟩
    rintro rfl
    exact absurd hc (by decide)

namespace Catalog

variable {cat : Catalog}

theorem Sound.colon_not_mem (h : cat.Sound) {e : String × String} (hr : cat.rejects e) :
    ':' ∉ e.1.toList := by
  obtain ⟨c, hc, -⟩ := rejects_iff.1 hr
  exact colon_not_mem_of_isKey (h.isKey_of_property? hc)

/-- Strict mode fails with warnings where lenient mode has them. -/
theorem Reachable.exists_of_strictWarnings (h : cat.Reachable) {raw : Properties}
    {warnings : List String}
    (hraw : (cat.resolve true raw.toValue).result = .error (.strictWarnings warnings)) :
    ∃ r, (cat.resolve false raw.toValue).result = .ok r ∧
      warnings = r.unrecognized.map entryReport ∧ ∀ e ∈ r.unrecognized, ':' ∉ e.1.toList := by
  obtain ⟨rfl, hl⟩ : warnings = (cat.resolution raw).warnings ∧ cat.Reads raw.entries := by
    rcases h.resolve_eq_error hraw with ⟨hstrict, hl⟩ | ⟨hunfilled, -⟩
    · exact ⟨Failure.strictWarnings.inj hstrict, hl⟩
    · cases hunfilled
  refine ⟨_, resolve_lenient_eq_ok h hl, rfl, fun e he => ?_⟩
  -- A key that is rejected is registered, and so it has the shape of a key.
  exact h.sound.colon_not_mem (List.mem_filter.1 he).2

/-- The message of strict mode tells which entries are not recognized. -/
theorem Reachable.strict_message_eq_iff (h : cat.Reachable) {raw other : Properties}
    {warnings others : List String}
    (hraw : (cat.resolve true raw.toValue).result = .error (.strictWarnings warnings))
    (hother : (cat.resolve true other.toValue).result = .error (.strictWarnings others)) :
    ∃ r q, (cat.resolve false raw.toValue).result = .ok r ∧
      (cat.resolve false other.toValue).result = .ok q ∧
      ((Failure.strictWarnings warnings).message = (Failure.strictWarnings others).message ↔
        r.unrecognized = q.unrecognized) := by
  obtain ⟨r, hr, rfl, hkeys⟩ := h.exists_of_strictWarnings hraw
  obtain ⟨q, hq, rfl, hothers⟩ := h.exists_of_strictWarnings hother
  refine ⟨r, q, hr, hq, fun hmessage => ?_, fun heq => by rw [heq]⟩
  have hjoined := congrArg String.toList (Option.some.inj hmessage)
  rw [String.toList_append, String.toList_append] at hjoined
  exact intercalate_entryReport_inj hkeys hothers
    (String.toList_injective (List.append_cancel_left hjoined))

/-- Two entries that are not recognized. -/
def imitatedProperties : Properties where
  entries := [("tab_width", "a"), ("wrap", "b")]
  nodup := by decide

/-- One entry with a text that looks like the report on another one. -/
def imitatingProperties : Properties where
  entries := [("tab_width", "a'; Unrecognized value for wrap: 'b")]
  nodup := by decide

/-- An imitated report does not make the messages the same. -/
theorem Reachable.strict_message_eq_iff_twice :
    twice.Reachable ∧ ∃ warnings others,
      (twice.resolve true imitatedProperties.toValue).result = .error (.strictWarnings warnings) ∧
      (twice.resolve true imitatingProperties.toValue).result = .error (.strictWarnings others) ∧
      (Failure.strictWarnings warnings).message ≠ (Failure.strictWarnings others).message := by
  have hlegible : twice.Legible := by decide +kernel
  have hfails : ∀ raw : Properties, (twice.resolution raw).warnings ≠ [] →
      (twice.resolve true raw.toValue).result =
        .error (.strictWarnings (twice.resolution raw).warnings) := by
    intro raw hw
    rw [resolve_eq reachable_twice (hlegible.reads reachable_twice.sound _), if_pos ⟨rfl, hw⟩]
  have hraw := hfails imitatedProperties (by decide +kernel)
  have hother := hfails imitatingProperties (by decide +kernel)
  obtain ⟨r, q, hr, hq, hiff⟩ := reachable_twice.strict_message_eq_iff hraw hother
  obtain rfl := eq_of_resolve_eq_ok reachable_twice hr
  obtain rfl := eq_of_resolve_eq_ok reachable_twice hq
  have hdiffer : (twice.resolution imitatedProperties).unrecognized ≠
      (twice.resolution imitatingProperties).unrecognized := by decide +kernel
  exact ⟨reachable_twice, _, _, hraw, hother, fun h => hdiffer (hiff.1 h)⟩

end Catalog

end EditorConfig

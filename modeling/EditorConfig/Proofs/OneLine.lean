import EditorConfig.Proofs.Literals
import EditorConfig.Proofs.Restored
import EditorConfig.Proofs.Standards

/-! Settings on one line. No key and no text has a comma or an equality sign in it, so a line can be
taken apart into the entries that it was put together from, and the entries say what every field
holds. -/

namespace EditorConfig

/-- A text that neither ends a pair nor parts a key from its text. -/
def Unseparated (s : String) : Prop := ',' ∉ s.toList ∧ '=' ∉ s.toList

instance (s : String) : Decidable (Unseparated s) := inferInstanceAs (Decidable (_ ∧ _))

namespace Entries

/-- A key and its text in one piece. -/
def pair (e : String × String) : String := e.1 ++ "=" ++ e.2

/-- All pairs on one line. -/
def shown (es : List (String × String)) : String :=
  if es.isEmpty then "<empty>" else ", ".intercalate (es.map pair)

theorem toList_pair (e : String × String) : (pair e).toList = e.1.toList ++ '=' :: e.2.toList := by
  simp [pair]

theorem pair_inj {e f : String × String} (hf : Unseparated f.1 ∧ Unseparated f.2)
    (h : pair e = pair f) : e = f := by
  have hlists : e.1.toList ++ '=' :: e.2.toList = f.1.toList ++ '=' :: f.2.toList := by
    rw [← toList_pair, ← toList_pair, h]
  obtain ⟨hkey, -, htext⟩ :=
    (List.append_cons_inj_of_notMem hf.1.2 hf.2.2).1 hlists.symm
  exact Prod.ext (String.toList_injective hkey.symm) (String.toList_injective htext.symm)

theorem map_pair_inj {es fs : List (String × String)}
    (hf : ∀ f ∈ fs, Unseparated f.1 ∧ Unseparated f.2) (h : es.map pair = fs.map pair) :
    es = fs := by
  induction fs generalizing es with
  | nil => simpa using h
  | cons f fs ih =>
    cases es with
    | nil => simp at h
    | cons e es =>
      obtain ⟨hpair, hrest⟩ := List.cons.inj h
      rw [pair_inj (hf f List.mem_cons_self) hpair,
        ih (fun x hx => hf x (List.mem_cons_of_mem f hx)) hrest]

theorem comma_not_mem_pair {e : String × String} (h : Unseparated e.1 ∧ Unseparated e.2) :
    ',' ∉ (pair e).toList := by
  simp [toList_pair, h.1.1, h.2.1]

/-- The blank behind a comma can be taken for the first character of what follows it. -/
theorem toList_intercalate_cons (s : String) (rest : List String) :
    (", ".intercalate (s :: rest)).toList =
      [','].intercalate (s.toList :: rest.map fun t => ' ' :: t.toList) := by
  induction rest generalizing s with
  | nil => simp
  | cons t rest ih =>
    have hblank : ' ' :: [','].intercalate (t.toList :: rest.map fun u => ' ' :: u.toList) =
        [','].intercalate ((' ' :: t.toList) :: rest.map fun u => ' ' :: u.toList) := by
      cases rest <;> simp [List.intercalate_cons_cons]
    rw [String.intercalate_cons_cons, List.map_cons, List.intercalate_cons_cons, ← hblank,
      String.toList_append, String.toList_append, ih t]
    simp

/-- The parts of a line are found again if none of them has a comma in it. -/
theorem intercalate_inj {ss ts : List String} (hs : ∀ s ∈ ss, ',' ∉ s.toList)
    (ht : ∀ t ∈ ts, ',' ∉ t.toList) (hss : ss ≠ []) (hts : ts ≠ [])
    (h : ", ".intercalate ss = ", ".intercalate ts) : ss = ts := by
  obtain ⟨s, ss, rfl⟩ := List.exists_cons_of_ne_nil hss
  obtain ⟨t, ts, rfl⟩ := List.exists_cons_of_ne_nil hts
  have hsplit : ∀ {u : String} {us : List String}, (∀ v ∈ u :: us, ',' ∉ v.toList) →
      (", ".intercalate (u :: us)).toList.splitOn ',' =
        u.toList :: us.map fun v => ' ' :: v.toList := by
    intro u us hu
    rw [toList_intercalate_cons]
    refine List.splitOn_intercalate ',' (List.forall_mem_cons.2 ⟨hu u List.mem_cons_self, ?_⟩)
      (List.cons_ne_nil _ _)
    simp only [List.forall_mem_map]
    intro v hv
    simpa using hu v (List.mem_cons_of_mem u hv)
  have hparts := (hsplit hs).symm.trans ((congrArg (·.toList.splitOn ',') h).trans (hsplit ht))
  obtain ⟨hhead, htail⟩ := List.cons.inj hparts
  have hinjective : Function.Injective fun v : String => ' ' :: v.toList :=
    fun u v huv => String.toList_injective (List.cons.inj huv).2
  rw [String.toList_injective hhead, hinjective.list_map htail]

/-- A line with a pair on it is not the one without entries, as this has no equality sign. -/
theorem shown_ne_shown_nil {e : String × String} {es : List (String × String)} :
    shown (e :: es) ≠ shown [] := by
  intro h
  have hmem : '=' ∈ (shown (e :: es)).toList := by
    rw [shown, List.isEmpty_cons, if_neg Bool.false_ne_true, List.map_cons]
    cases es <;> simp [pair]
  rw [h] at hmem
  exact absurd hmem (by decide)

theorem shown_inj {es fs : List (String × String)}
    (he : ∀ e ∈ es, Unseparated e.1 ∧ Unseparated e.2)
    (hf : ∀ f ∈ fs, Unseparated f.1 ∧ Unseparated f.2) (h : shown es = shown fs) : es = fs := by
  cases es with
  | nil =>
    cases fs with
    | nil => rfl
    | cons f fs => exact absurd h.symm shown_ne_shown_nil
  | cons e es =>
    cases fs with
    | nil => exact absurd h shown_ne_shown_nil
    | cons f fs =>
      have hpairs : (e :: es).map pair = (f :: fs).map pair :=
        intercalate_inj (List.forall_mem_map.2 fun x hx => comma_not_mem_pair (he x hx))
          (List.forall_mem_map.2 fun x hx => comma_not_mem_pair (hf x hx)) (by simp) (by simp) h
      exact map_pair_inj hf hpairs

end Entries

namespace StandardProperty

theorem unseparated_words (p : StandardProperty) : ∀ w ∈ p.words, Unseparated w := by
  cases p <;> decide

theorem Spells.unseparated {p : StandardProperty} {t : String} {v : Value} (h : p.Spells t v) :
    Unseparated t := by
  rcases h.digits_or_word with ⟨-, hdigits⟩ | hword
  · exact ⟨fun hc => absurd (hdigits _ hc) (by decide), fun he => absurd (hdigits _ he) (by decide)⟩
  · exact p.unseparated_words t hword

theorem unseparated_key (p : StandardProperty) : Unseparated p.key := by
  cases p <;> decide

end StandardProperty

namespace Settings

variable {cat a b : Catalog} {s t : Settings} {text other : StandardProperty → Option String}

theorem spelledBy_none (cat : Catalog) : SpelledBy ⟨fun _ => none⟩ cat fun _ => none :=
  ⟨fun _ _ => rfl, fun _ _ h => nomatch h⟩

namespace SpelledBy

theorem text_eq (hs : s.SpelledBy cat text) (h : cat.Sound) :
    s.text cat =
      .ok ("EditorSettings(" ++ Entries.shown (StandardProperty.listed text) ++ ")") := by
  rw [Settings.text, hs.entries_eq h]
  rfl

theorem unseparated (hs : s.SpelledBy cat text) (h : cat.Sound) :
    ∀ e ∈ StandardProperty.listed text, Unseparated e.1 ∧ Unseparated e.2 := by
  intro e he
  obtain ⟨p, v, hkey, hspells⟩ := hs.exists_spells h e he
  exact ⟨hkey ▸ p.unseparated_key, hspells.unseparated⟩

/-- Fields hold the same if they have the same texts. -/
theorem eq_of_text (hs : s.SpelledBy cat text) (ht : t.SpelledBy cat text) : s = t := by
  refine Settings.ext (funext fun p => ?_)
  cases hp : text p with
  | none => rw [hs.unset p hp, ht.unset p hp]
  | some word =>
    obtain ⟨v, hv, hparse⟩ := hs.read p word hp
    obtain ⟨w, hw, hread⟩ := ht.read p word hp
    rw [hv, hw, ← Except.ok.inj (hparse.symm.trans hread)]

/-- A line falls apart into the texts of the properties, and these say what the fields hold. -/
theorem line_eq_iff (hs : s.SpelledBy cat text) (ht : t.SpelledBy cat other) (h : cat.Sound) :
    "EditorSettings(" ++ Entries.shown (StandardProperty.listed text) ++ ")" =
        "EditorSettings(" ++ Entries.shown (StandardProperty.listed other) ++ ")" ↔
      ∀ p, s.value p = t.value p := by
  constructor
  · intro hline p
    have hshown := (String.append_right_inj _).1 ((String.append_left_inj _).1 hline)
    have hlisted := Entries.shown_inj (hs.unseparated h) (ht.unseparated h) hshown
    obtain rfl : text = other := by
      funext q
      rw [← StandardProperty.lookup_listed text, hlisted, StandardProperty.lookup_listed]
    rw [hs.eq_of_text ht]
  · intro hvalues
    obtain rfl : s = t := Settings.ext (funext hvalues)
    exact Except.ok.inj ((hs.text_eq h).symm.trans (ht.text_eq h))

end SpelledBy

/-- The line shows which values the fields of settings hold, whichever catalogs write it: lines are
equal if all fields are. -/
theorem Produced.text_identifies (hs : s.Produced) (ht : t.Produced) (ha : a.Reachable)
    (hb : b.Reachable) :
    ∃ line line', s.text a = .ok line ∧ t.text b = .ok line' ∧
      (line = line' ↔ ∀ p, s.value p = t.value p) ∧
      (line = "EditorSettings(<empty>)" ↔ ∀ p, s.value p = none) ∧
      ∀ p, s.value p ≠ t.value p → line ≠ line' := by
  obtain ⟨text, htext⟩ := hs.exists_spelledBy ha.sound
  obtain ⟨other, hother⟩ := ht.exists_spelledBy hb.sound
  have hmoved : t.SpelledBy a other := by
    refine ⟨hother.unset, fun p word hp => ?_⟩
    rw [ha.standard_eq hb]
    exact hother.read p word hp
  have hsame := htext.line_eq_iff hmoved ha.sound
  exact ⟨_, _, htext.text_eq ha.sound, hother.text_eq hb.sound, hsame,
    htext.line_eq_iff (spelledBy_none a) ha.sound, fun p hne hline => hne (hsame.1 hline p)⟩

/-- Zero is not what is switched off, and false is not what is unset. -/
theorem Produced.text_identifies_off :
    ∃ s r line line', Catalog.twice.Reachable ∧
      ofMapping Catalog.initial [(.text "max_line_length", .int 0),
        (.text "trim_trailing_whitespace", .bool false)] = .ok s ∧
      (Catalog.twice.resolve true
        (.mapping [(.text "max_line_length", .text "off")])).result = .ok r ∧
      s.text Catalog.twice = .ok line ∧ r.settings.text Catalog.initial = .ok line' ∧
      line = "EditorSettings(trim_trailing_whitespace=false, max_line_length=0)" ∧
      line' = "EditorSettings(max_line_length=off)" ∧ line ≠ line' := by
  obtain ⟨s, hs, hvalue, htext⟩ : ∃ s, ofMapping Catalog.initial
      [(.text "max_line_length", .int 0), (.text "trim_trailing_whitespace", .bool false)] = .ok s ∧
      s.value .maxLineLength = some (.int 0) ∧ s.text Catalog.twice =
        .ok "EditorSettings(trim_trailing_whitespace=false, max_line_length=0)" :=
    ⟨_, rfl, rfl, rfl⟩
  obtain ⟨r, hr, hvalue', htext'⟩ : ∃ r, (Catalog.twice.resolve true
      (.mapping [(.text "max_line_length", .text "off")])).result = .ok r ∧
      r.settings.value .maxLineLength = some .explicitNone ∧ r.settings.text Catalog.initial =
        .ok "EditorSettings(max_line_length=off)" := ⟨_, rfl, rfl, rfl⟩
  obtain ⟨line, line', hline, hline', -, -, hdiffer⟩ :=
    Produced.text_identifies (.built .initial hs) (.resolved Catalog.reachable_twice hr)
      Catalog.reachable_twice .initial
  refine ⟨s, r, line, line', Catalog.reachable_twice, hs, hr, hline, hline',
    Except.ok.inj (hline.symm.trans htext), Except.ok.inj (hline'.symm.trans htext'),
    hdiffer .maxLineLength ?_⟩
  simp [hvalue, hvalue']

end Settings

end EditorConfig

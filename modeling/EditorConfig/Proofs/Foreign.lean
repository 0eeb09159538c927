import EditorConfig.Proofs.Agreement
import EditorConfig.Proofs.Served

/-! Look-ups that come upon a value that is no text. No rule makes a value out of it, whatever it
looks like: a look-up either does not recognize it, which a default replaces, or fails on what it
is. Which of the two depends on the rule, and on whether the value can be compared, looked up,
measured and written. -/

namespace EditorConfig

namespace Failure

/-- The failure is about a value of a type that an operation does not take. -/
def isType : Failure → Bool
  | unreadable _ | notCallable _ | unhashable _ => true
  | _ => false

/-- A look-up of a known property is expected to fail in this way. -/
def isExpected : Failure → Bool
  | notSet _ | unrecognized _ _ => true
  | _ => false

end Failure

theorem orDefault_of_not_isExpected {f : Failure} (h : f.isExpected = false) (d : Value) :
    orDefault d (.error f) = .error f := by
  cases f <;> first | rfl | cases h

theorem Member.not_isExpected_of_obstacle? {m : Member} {hook : Hook} {f : Failure}
    (h : m.obstacle? hook = some f) : f.isExpected = false := by
  unfold obstacle? at h
  split at h <;> cases h <;> rfl

namespace Value

/-- The value is no text. -/
def Foreign (v : Value) : Prop := ∀ s, v ≠ .text s

def isCollection : Value → Bool
  | list _ | mapping _ => true
  | _ => false

theorem not_isExpected_of_unwritten? {v : Value} {f : Failure} (h : v.unwritten? = some f) :
    f.isExpected = false := by
  obtain ⟨leaf, -, hleaf⟩ := List.exists_of_findSome?_eq_some h
  unfold unwrittenLeaf? at hleaf
  split at hleaf
  · split at hleaf <;> cases hleaf
    rfl
  · unfold Member.unwritten? at hleaf
    split at hleaf <;> exact Member.not_isExpected_of_obstacle? hleaf
  · cases hleaf

theorem unhashed?_ne_none_of_isCollection {v : Value} (h : v.isCollection) :
    v.unhashed? ≠ none := by
  cases v <;> simp [isCollection, unhashed?] at h ⊢

/-- What can be looked up can be compared. -/
theorem equatable_of_unhashed? {v : Value} (h : v.unhashed? = none) : v.equatable = true := by
  cases v with
  | member m =>
    cases he : m.hook? .equality with
    | none => simp [equatable, Member.obstacle?_of_none he]
    | some t =>
      -- A comparison of its own keeps a member from being looked up, with or without a hash.
      cases hh : m.hook? .hashing with
      | none => simp [unhashed?, Member.unhashed?, he, hh] at h
      | some u => cases u <;> simp [unhashed?, Member.unhashed?, Member.obstacle?, hh] at h
  | _ => rfl

end Value

namespace Primitive

variable {p : Primitive} {v w : Value}

theorem read_ne_value (hv : v.Foreign) : p.read v ≠ .ok (some w) := by
  cases p <;> cases v <;> simp only [read, ne_eq, reduceCtorEq, not_false_eq_true] <;>
    first
    | exact absurd rfl (hv _)
    | (split <;> simp)

/-- No primitive makes a value out of one that is no text. -/
theorem read_foreign (hv : v.Foreign) :
    p.read v = .ok none ∨ ∃ f : Failure, p.read v = .error f := by
  cases hread : p.read v with
  | error f => exact .inr ⟨f, rfl⟩
  | ok found =>
    cases found with
    | none => exact .inl rfl
    | some w => exact absurd hread (read_ne_value hv)

theorem read_cases (hv : v.Foreign) : p.read v = .ok none ∨
    ∃ f : Failure, f.isExpected = false ∧ p.read v = .error f := by
  rcases read_foreign hv with hread | ⟨f, hread⟩
  · exact .inl hread
  · refine .inr ⟨f, ?_, hread⟩
    rcases read_eq_error hread with rfl | ⟨m, -, hsize⟩
    · rfl
    · exact Member.not_isExpected_of_obstacle? hsize

theorem read_bool (hv : v.Foreign) :
    bool.read v = if v.unhashed? = none then .ok none else .error (.unreadable v) := by
  have hread : bool.read v = if bool.comparable v then .ok none else .error (.unreadable v) := by
    cases v <;> first | rfl | exact absurd rfl (hv _)
  simp only [hread, comparable, Option.isNone_iff_eq_none]

/-- Numbers are measured first, which a value without a size refuses. -/
theorem read_uint (hv : v.Foreign) (hm : ∀ m, v = .member m → m.hook? .size ≠ some .slot) :
    (uint.read v = .ok none ∧ ∃ n, v.size? = some n ∧ Uint.maxDigits < n) ∨
      ∃ f : Failure, f.isType = true ∧ uint.read v = .error f := by
  rcases read_foreign hv with hread | ⟨f, hread⟩
  · refine .inl ⟨hread, ?_⟩
    have hcomparable : uint.comparable v = true := by
      cases v with
      | text s => exact absurd rfl (hv s)
      | member m => cases hread
      | _ =>
        by_contra hc
        simp [read, hc] at hread
    simpa [comparable, Option.any_eq_true] using hcomparable
  · refine .inr ⟨f, ?_, hread⟩
    rcases read_eq_error hread with rfl | ⟨m, rfl, hsize⟩
    · rfl
    · have hslot := hm m rfl
      unfold Member.obstacle? at hsize
      split at hsize <;> cases hsize <;> first | rfl | contradiction

end Primitive

namespace Rule

variable {members : List Member} {r : Rule} {v w : Value}

theorem compare_of_equatable (h : v.equatable = true) : compare v = .ok () := if_pos h

theorem compare_of_not_equatable (h : v.equatable = false) :
    compare v = .error (.unreadable v) := by
  simp [compare, h]

/-- An enumeration compares a value with the text of its first member only, as no text is found. -/
theorem read_enumeration_cons (hv : v.Foreign) (m : Member) (rest : List Member) :
    enumeration.read (m :: rest) v = do
      let _ ← m.givenText
      compare v
      return none := by
  cases v <;> first | rfl | exact absurd rfl (hv _)

theorem read_enumeration_nil (v : Value) : enumeration.read [] v = .ok none := by
  cases v <;> rfl

/-- A primitive reads what can be compared with a sentinel, if there is one. -/
theorem read_of_primitive {p : Primitive} (hr : r.primitive? = some p) (hv : v.Foreign) :
    ((r.sentinel?.isSome → v.equatable = true) ∧ r.read members v = p.read v) ∨
      (r.sentinel?.isSome ∧ v.equatable = false) ∧ r.read members v = .error (.unreadable v) := by
  cases r with
  | enumeration => cases hr
  | scalar q =>
    obtain rfl := Option.some.inj hr
    have hread : (scalar q).read members v = q.read v := by cases v <;> rfl
    exact .inl ⟨by simp [sentinel?], hread⟩
  | optional q sentinel =>
    obtain rfl := Option.some.inj hr
    have hread : (optional q sentinel).read members v = (do compare v; q.read v) := by
      cases v <;> first | rfl | exact absurd rfl (hv _)
    rw [hread]
    cases he : v.equatable with
    | true => exact .inl ⟨fun _ => rfl, by rw [compare_of_equatable he]; rfl⟩
    | false => exact .inr ⟨⟨rfl, rfl⟩, by rw [compare_of_not_equatable he]; rfl⟩

/-- A truth value is not recognized in anything that can be looked up. -/
theorem read_bool (hr : r.primitive? = some .bool) (hv : v.Foreign) :
    r.read members v = if v.unhashed? = none then .ok none else .error (.unreadable v) := by
  rcases read_of_primitive hr hv with ⟨-, hread⟩ | ⟨⟨-, hne⟩, hread⟩
  · rw [hread, Primitive.read_bool hv]
  · have hunhashed : v.unhashed? ≠ none := by
      intro hnone
      rw [Value.equatable_of_unhashed? hnone] at hne
      cases hne
    rw [hread, if_neg hunhashed]

/-- Whatever a value that is no text looks like, it is not read. -/
theorem read_cases (hv : v.Foreign) : r.read members v = .ok none ∨
    ∃ f : Failure, f.isExpected = false ∧ r.read members v = .error f := by
  -- A sentinel only adds a comparison, so both kinds of rules that have a primitive are one case.
  have hprimitive : ∀ p, r.primitive? = some p → r.read members v = .ok none ∨
      ∃ f : Failure, f.isExpected = false ∧ r.read members v = .error f := by
    intro p hr
    rcases read_of_primitive hr hv with ⟨-, hread⟩ | ⟨-, hread⟩
    · rw [hread]
      exact Primitive.read_cases hv
    · exact .inr ⟨_, rfl, hread⟩
  cases r with
  | enumeration =>
    cases members with
    | nil => exact .inl (read_enumeration_nil v)
    | cons m rest =>
      rw [read_enumeration_cons hv]
      cases ht : m.givenText with
      | error f =>
        rw [PropertyClass.givenText_eq] at ht
        split at ht <;> cases ht
        exact .inr ⟨_, rfl, rfl⟩
      | ok t =>
        cases he : v.equatable with
        | true => exact .inl (by rw [compare_of_equatable he]; rfl)
        | false => exact .inr ⟨.unreadable v, rfl, by rw [compare_of_not_equatable he]; rfl⟩
  | scalar p => exact hprimitive p rfl
  | optional p sentinel => exact hprimitive p rfl

end Rule

namespace PropertyClass

variable {c : PropertyClass} {j : String} {entries : List (Value × Value)} {v : Value}

theorem lookup_of_read_none (hj : c.key = some j) (he : Value.entry? j entries = some v)
    (h : c.read v = .ok none) :
    c.lookup entries = .error (.showing v (.unrecognized j v)) := by
  simp [lookup, require, hj, he, h, bind, Except.bind]

theorem lookup_of_read_error (hj : c.key = some j) (he : Value.entry? j entries = some v)
    {f : Failure} (h : c.read v = .error f) : c.lookup entries = .error f := by
  simp [lookup, require, hj, he, h, bind, Except.bind]

/-- A look-up ends with the value unrecognized, or with a failure that is not expected. -/
theorem lookup_foreign {r : Rule} (hj : c.key = some j) (hr : c.rule = some r)
    (he : Value.entry? j entries = some v) (hv : v.Foreign) :
    c.lookup entries = .error (.unrecognized j v) ∨
      ∃ f : Failure, f.isExpected = false ∧ c.lookup entries = .error f := by
  rcases Rule.read_cases hv with hread | ⟨f, hf, hread⟩
  · rw [lookup_of_read_none hj he ((read_of_rule hr v).trans hread), Failure.showing]
    -- The report shows the value, so what keeps it from being written comes before the report.
    cases hu : v.unwritten? with
    | none => exact .inl rfl
    | some f => exact .inr ⟨f, Value.not_isExpected_of_unwritten? hu, rfl⟩
  · exact .inr ⟨f, hf, lookup_of_read_error hj he ((read_of_rule hr v).trans hread)⟩

/-- The value is reported as unrecognized exactly if it is read as such and can be written. -/
theorem lookup_eq_unrecognized_iff {r : Rule} (hj : c.key = some j) (hr : c.rule = some r)
    (he : Value.entry? j entries = some v) (hv : v.Foreign) :
    c.lookup entries = .error (.unrecognized j v) ↔
      r.read c.members v = .ok none ∧ v.unwritten? = none := by
  rcases Rule.read_cases hv with hread | ⟨f, hf, hread⟩
  · rw [lookup_of_read_none hj he ((read_of_rule hr v).trans hread), Failure.showing, hread]
    cases hu : v.unwritten? with
    | none => simp
    | some f =>
      have hf := Value.not_isExpected_of_unwritten? hu
      simp only [Option.getD_some, Except.error.injEq, reduceCtorEq, and_false, iff_false]
      rintro rfl
      cases hf
  · rw [lookup_of_read_error hj he ((read_of_rule hr v).trans hread), hread]
    simp only [Except.error.injEq, reduceCtorEq, false_and, iff_false]
    rintro rfl
    cases hf

/-- An enumeration sets a value aside, unless its members have no texts or the value cannot be
compared with one. -/
theorem read_enumeration_iff {ref : ClassRef} {keys : List String} (h : c.Fits ref keys)
    (hv : v.Foreign) :
    Rule.enumeration.read c.members v = .ok none ↔
      c.members = [] ∨ c.traits.lookup textTrait ≠ some .slot ∧ v.equatable = true := by
  cases hm : c.members with
  | nil => simp [Rule.read_enumeration_nil]
  | cons m rest =>
    have hmem : m ∈ c.members := by simp [hm]
    rw [Rule.read_enumeration_cons hv, givenText_eq, (h.member hmem).2.2]
    cases he : v.equatable with
    | true =>
      rw [Rule.compare_of_equatable he]
      rcases c.traits.lookup textTrait with _ | _ | _ <;>
        simp [bind, Except.bind, pure, Except.pure]
    | false =>
      rw [Rule.compare_of_not_equatable he]
      rcases c.traits.lookup textTrait with _ | _ | _ <;> simp [bind, Except.bind]

/-- A number is not recognized in a value that has a size, and the others have a wrong type. -/
theorem lookup_of_uint {r : Rule} (hj : c.key = some j) (hr : c.rule = some r)
    (huint : r.primitive? = some .uint) (he : Value.entry? j entries = some v) (hv : v.Foreign)
    (hsize : ∀ m, v = .member m → m.hook? .size = some .slot →
      r.sentinel?.isSome ∧ v.equatable = false)
    (hwritten : ∀ n, v.size? = some n → Uint.maxDigits < n →
      ∀ f, v.unwritten? = some f → f.isType = true) :
    c.lookup entries = .error (.unrecognized j v) ∨
      ∃ f : Failure, f.isType = true ∧ c.lookup entries = .error f := by
  have hread := read_of_rule hr v
  rcases Rule.read_of_primitive huint hv with ⟨hequal, hprimitive⟩ | ⟨-, herror⟩
  · have hmeasured : ∀ m, v = .member m → m.hook? .size ≠ some .slot := by
      intro m hm hslot
      obtain ⟨hsentinel, hne⟩ := hsize m hm hslot
      rw [hequal hsentinel] at hne
      cases hne
    rw [hprimitive] at hread
    rcases Primitive.read_uint hv hmeasured with ⟨hnone, n, hn, hlt⟩ | ⟨f, hf, herror⟩
    · rw [lookup_of_read_none hj he (hread.trans hnone), Failure.showing]
      cases hu : v.unwritten? with
      | none => exact .inl rfl
      | some f => exact .inr ⟨f, hwritten n hn hlt f hu, rfl⟩
    · exact .inr ⟨f, hf, lookup_of_read_error hj he (hread.trans herror)⟩
  · exact .inr ⟨.unreadable v, rfl, lookup_of_read_error hj he (hread.trans herror)⟩

end PropertyClass

namespace Catalog

/-- How looking a property up ends at a value `v` that is no text, by the rule `r` of the class. A
value is written to report that it is not recognized, which the members and integers in it can
prevent. -/
structure Declines (cat : Catalog) (c : PropertyClass) (r : Rule) (prop : PropertyRef)
    (entries : List (Value × Value)) (j : String) (v : Value) : Prop where
  never : ∀ w, cat.get entries prop ≠ .ok w
  getOr : ∀ d, (cat.get entries prop = .error (.unrecognized j v) ∧
      cat.getOr entries prop d = .ok d) ∨
    (∀ i w, cat.get entries prop ≠ .error (.unrecognized i w)) ∧
      cat.getOr entries prop d = cat.get entries prop
  enumeration : r = .enumeration →
    (cat.get entries prop = .error (.unrecognized j v) ↔
      (c.members = [] ∨ c.traits.lookup textTrait ≠ some .slot ∧ v.equatable = true) ∧
        v.unwritten? = none)
  collection : r.primitive? = some .bool → v.isCollection →
    cat.get entries prop = .error (.unreadable v)
  bool : r.primitive? = some .bool → ¬ v.isCollection →
    (cat.get entries prop = .error (.unrecognized j v) ↔
      v.unhashed? = none ∧ v.unwritten? = none)
  uint : r.primitive? = some .uint →
    (∀ m, v = .member m → m.hook? .size = some .slot →
      r.sentinel?.isSome ∧ v.equatable = false) →
    (∀ n, v.size? = some n → Uint.maxDigits < n →
      ∀ f, v.unwritten? = some f → f.isType = true) →
    cat.get entries prop = .error (.unrecognized j v) ∨
      ∃ f : Failure, f.isType = true ∧ cat.get entries prop = .error f

/-- No look-up of a registered class makes a value out of one that is no text. -/
theorem get_foreign {cat : Catalog} (h : cat.Reachable) {key : String} {ref : ClassRef}
    (hr : cat.ref? key = some ref) :
    ∃ c j r, cat.class? ref = some c ∧ c.key = some j ∧ c.rule = some r ∧
      ∀ prop ∈ [.key key, .named ref], ∀ entries v,
        Value.entry? j entries = some v → v.Foreign → cat.Declines c r prop entries j v := by
  have hsound := h.sound
  obtain ⟨c, j, hc, hj, -, -⟩ := hsound.exists_latest hr
  have hfits := hsound.fits ref c hc
  obtain ⟨r, hrule⟩ := hfits.exists_rule (hsound.keysOf_ne_nil_iff.2 ⟨key, hr⟩)
  refine ⟨c, j, r, hc, hj, hrule, fun prop hprop entries v he hv => ?_⟩
  have hget : cat.get entries prop = c.lookup entries := by
    rcases List.mem_cons.1 hprop with rfl | hprop
    · exact get_key (Option.bind_eq_some_iff.2 ⟨ref, hr, hc⟩) entries
    · obtain rfl := List.mem_singleton.1 hprop
      exact get_named hc entries
  have hforeign := PropertyClass.lookup_foreign hj hrule he hv
  have hunrecognized := PropertyClass.lookup_eq_unrecognized_iff hj hrule he hv
  rw [← hget] at hforeign hunrecognized
  constructor
  case never =>
    intro w
    rcases hforeign with h | ⟨f, -, h⟩ <;> simp [h]
  case getOr =>
    intro d
    rcases hforeign with h | ⟨f, hf, h⟩
    · exact .inl ⟨h, by rw [Catalog.getOr, h]; rfl⟩
    · refine .inr ⟨fun i w hi => ?_, by rw [Catalog.getOr, h, orDefault_of_not_isExpected hf]⟩
      obtain rfl := Except.error.inj (h.symm.trans hi)
      cases hf
  case enumeration =>
    rintro rfl
    rw [hunrecognized, PropertyClass.read_enumeration_iff hfits hv]
  case collection =>
    intro hbool hcollection
    have hread : c.read v = .error (.unreadable v) := by
      rw [PropertyClass.read_of_rule hrule, Rule.read_bool hbool hv,
        if_neg (Value.unhashed?_ne_none_of_isCollection hcollection)]
    exact hget.trans (PropertyClass.lookup_of_read_error hj he hread)
  case bool =>
    intro hbool _
    rw [hunrecognized, Rule.read_bool hbool hv]
    simp
  case uint =>
    intro huint hsize hwritten
    rw [hget]
    exact PropertyClass.lookup_of_uint hj hrule huint he hv hsize hwritten

/-- A member of the enumeration in `twice`. -/
def wrapMember : Member := ⟨.custom 0, "Wrap", "ON", "on", []⟩

/-- Values that look like what their properties have, such as a member of the enumeration itself. -/
def foreignEntries : List (Value × Value) :=
  [(.text "wrap", .member wrapMember), (.text "insert_final_newline", .bool true),
    (.text "trim_trailing_whitespace", .list []), (.text "tab_width", .int 4)]

/-- None of them is taken for what it looks like. -/
theorem get_foreign_twice :
    twice.Reachable ∧ (∀ c ∈ twice.class? (.custom 0), wrapMember ∈ c.members) ∧
      twice.get foreignEntries (.key "wrap_column") =
        .error (.unrecognized "wrap" (.member wrapMember)) ∧
      twice.getOr foreignEntries (.key "wrap_column") .null = .ok .null ∧
      twice.get foreignEntries (.named (.standard .finalNewline)) =
        .error (.unrecognized "insert_final_newline" (.bool true)) ∧
      twice.get foreignEntries (.key "trim_trailing_whitespace") =
        .error (.unreadable (.list [])) ∧
      twice.getOr foreignEntries (.key "trim_trailing_whitespace") .null =
        .error (.unreadable (.list [])) ∧
      (∀ w, twice.get foreignEntries (.key "tab_width") ≠ .ok w) ∧
      (twice.get foreignEntries (.key "tab_width") = .error (.unrecognized "tab_width" (.int 4)) ∨
        ∃ f : Failure, f.isType = true ∧
          twice.get foreignEntries (.key "tab_width") = .error f) := by
  have hdeclines : ∀ key ref j r, twice.ref? key = some ref →
      (∀ c ∈ twice.class? ref, c.key = some j ∧ c.rule = some r) →
      ∃ c ∈ twice.class? ref, ∀ prop ∈ [.key key, .named ref], ∀ v,
        Value.entry? j foreignEntries = some v → v.Foreign →
        twice.Declines c r prop foreignEntries j v := by
    intro key ref j r hr hclass
    obtain ⟨c, i, q, hc, hi, hq, hget⟩ := get_foreign reachable_twice hr
    obtain ⟨hj, hrule⟩ := hclass c hc
    obtain rfl := Option.some.inj (hi.symm.trans hj)
    obtain rfl := Option.some.inj (hq.symm.trans hrule)
    exact ⟨c, hc, fun prop hprop => hget prop hprop foreignEntries⟩
  obtain ⟨c, hc, hwrap⟩ := hdeclines "wrap_column" (.custom 0) "wrap" .enumeration
    (by decide +kernel) (by decide +kernel)
  obtain ⟨_, -, hfinal⟩ := hdeclines "insert_final_newline" (.standard .finalNewline)
    "insert_final_newline" (.scalar .bool) (by decide +kernel) (by decide +kernel)
  obtain ⟨_, -, htrim⟩ := hdeclines "trim_trailing_whitespace"
    (.standard .trimTrailingWhitespace) "trim_trailing_whitespace" (.scalar .bool)
    (by decide +kernel) (by decide +kernel)
  obtain ⟨_, -, htab⟩ := hdeclines "tab_width" (.standard .tabWidth) "tab_width" (.scalar .uint)
    (by decide +kernel) (by decide +kernel)
  have htraits : ∀ c ∈ twice.class? (.custom 0), c.traits = [] := by decide +kernel
  have hmember := hwrap (.key "wrap_column") (by simp) (.member wrapMember) rfl (fun _ => by simp)
  have hunread := (hmember.enumeration rfl).2 ⟨.inr ⟨by simp [htraits c hc], rfl⟩, rfl⟩
  have htruth := ((hfinal (.named (.standard .finalNewline)) (by simp) (.bool true) rfl
    (fun _ => by simp)).bool rfl (by decide)).2 ⟨rfl, rfl⟩
  have hitems := htrim (.key "trim_trailing_whitespace") (by simp) (.list []) rfl
    (fun _ => by simp)
  have hlist := hitems.collection rfl rfl
  have hnumber := htab (.key "tab_width") (by simp) (.int 4) rfl (fun _ => by simp)
  refine ⟨reachable_twice, by decide +kernel, hunread, ?_, htruth, hlist, ?_, hnumber.never,
    hnumber.uint rfl (by simp) (by simp [Value.size?])⟩
  · rcases hmember.getOr .null with ⟨-, hd⟩ | ⟨hne, -⟩
    · exact hd
    · exact absurd hunread (hne _ _)
  · rcases hitems.getOr .null with ⟨hu, -⟩ | ⟨-, hd⟩
    · cases hu.symm.trans hlist
    · exact hd.trans hlist

/-- The enumeration has a text under the name of a hook. -/
def hooked (h : Hook) : Catalog := made [(h.name, "text"), ("ON", "on")]

/-- The member of the enumeration in `hooked`. -/
def hookedMember (h : Hook) : Member :=
  ⟨.custom 0, "Mode", "ON", "on", [(h.name, .text "text")]⟩

/-- The member of the enumeration in `sizeless`. -/
def sizelessMember : Member :=
  ⟨.custom 0, "Mode", "ON", "on", [("__len__", .slot), ("__slots__", .text "__len__")]⟩

/-- The shortest integer that is too long to be written. -/
def longInteger : Int := Int.ofNat (Nat.pow 10 Text.maxDigits)

theorem overlong_longInteger : Text.overlong longInteger :=
  Text.overlong_iff.2 (Nat.le_of_eq (Int.natAbs_natCast _).symm)

/-- An enumeration fails on a member that cannot be compared, a truth value on one that cannot be
looked up, though it holds no other values, and a report on one without its class, as well as on an
integer that is too long. An empty slot in place of a size, or of the texts of an enumeration, is
not about the type of the value. -/
theorem not_get_foreign :
    (∀ h ∈ [Hook.equality, .hashing, .classification], (hooked h).Reachable ∧
      ∀ c ∈ (hooked h).custom, c.member? "ON" = some (hookedMember h)) ∧
    (∃ f, (hooked .equality).get [(.text "charset", .member (hookedMember .equality))]
      (.key "charset") = .error f ∧ f.isExpected = false) ∧
    (∃ f, (hooked .hashing).get
      [(.text "insert_final_newline", .member (hookedMember .hashing))]
      (.key "insert_final_newline") = .error f ∧ f.isType = true) ∧
    (∃ f, (hooked .classification).get
        [(.text "charset", .member (hookedMember .classification))] (.key "charset") = .error f ∧
      (hooked .classification).getOr
        [(.text "charset", .member (hookedMember .classification))] (.key "charset") .null =
        .error f ∧ f.isExpected = false ∧ f.isType = false) ∧
    (∃ f, initial.get [(.text "charset", .int longInteger)] (.key "charset") = .error f ∧
      initial.getOr [(.text "charset", .int longInteger)] (.key "charset") .null = .error f ∧
        f.isExpected = false ∧ f.isType = false) ∧
    (sizeless.Reachable ∧ (∀ c ∈ sizeless.custom, c.member? "ON" = some sizelessMember) ∧
      ∃ f, sizeless.get [(.text "tab_width", .member sizelessMember)] (.key "tab_width") =
        .error f ∧ f.isExpected = false ∧ f.isType = false) ∧
    slotted.Reachable ∧ ∃ f, slotted.get [(.text "mode", .int 4)] (.key "mode") = .error f ∧
      f.isExpected = false ∧ f.isType = false := by
  have hhooked : ∀ h ∈ [Hook.equality, .hashing, .classification], ∀ c ∈ (hooked h).custom,
      c.member? "ON" = some (hookedMember h) := by decide +kernel
  have hlong : ∀ n, Text.overlong n →
      initial.get [(.text "charset", .int n)] (.key "charset") = .error .overlong := by
    intro n hn
    have hget : initial.get [(.text "charset", .int n)] (.key "charset") =
        .error (.showing (.int n) (.unrecognized "charset" (.int n))) := rfl
    rw [hget]
    simp [Failure.showing, Value.unwritten?, Value.leaves, Value.unwrittenLeaf?, hn]
  have hlonger := hlong longInteger overlong_longInteger
  exact ⟨fun h hh => ⟨reachable_made _, hhooked h hh⟩, ⟨_, rfl, rfl⟩, ⟨_, rfl, rfl⟩,
    ⟨_, rfl, rfl, rfl, rfl⟩, ⟨_, hlonger, by rw [getOr, hlonger]; rfl, rfl, rfl⟩,
    ⟨reachable_made _, by decide +kernel, _, rfl, rfl, rfl⟩, reachable_enumerated _, _, rfl, rfl,
    rfl⟩

end Catalog

end EditorConfig

import EditorConfig.Lookup
import EditorConfig.Property.Description
import EditorConfig.Proofs.Inverse
import EditorConfig.Proofs.Missing
import EditorConfig.Proofs.Strictness

/-! What registered classes are used for. A registered class has all attributes of its kind, also
after declarations of it that failed. So where its members show their texts, a use of it only ends
with a missing attribute if the value that is looked at lacks it. -/

namespace EditorConfig

/-- A lowercase letter, followed by lowercase letters, digits and underscores. -/
def KeyShaped (key : String) : Prop :=
  ∃ c cs, key.toList = c :: cs ∧ ('a' ≤ c ∧ c ≤ 'z') ∧
    ∀ d ∈ cs, ('a' ≤ d ∧ d ≤ 'z') ∨ ('0' ≤ d ∧ d ≤ '9') ∨ d = '_'

theorem isKey_iff {key : String} : isKey key ↔ KeyShaped key := by
  have hlower : ∀ c : Char, c.isLower = true ↔ 'a' ≤ c ∧ c ≤ 'z' := by
    intro c
    change (decide (c.val ≥ 'a'.val) && decide (c.val ≤ 'z'.val)) = true ↔ _
    simp [Char.le_def]
  have hdigit : ∀ c : Char, c.isDigit = true ↔ '0' ≤ c ∧ c ≤ '9' := by
    intro c
    simp [Char.isDigit, Char.le_def]
  unfold isKey KeyShaped
  cases key.toList with
  | nil => simp
  | cons c cs =>
    simp only [Bool.and_eq_true, List.all_eq_true, Bool.or_eq_true, hlower, hdigit, beq_iff_eq,
      or_assoc]
    constructor
    · exact fun h => ⟨c, cs, rfl, h⟩
    · rintro ⟨d, ds, heq, h⟩
      cases heq
      exact h

namespace PropertyClass

/-- The attribute is found in the class, whether or not it was given. -/
def has (c : PropertyClass) (a : Attribute) : Prop := c.given a ∨ ∃ o, c.occupant a = .ok o

/-- The class has all attributes that a property of its kind has, and an enumeration has members. -/
structure Equipped (c : PropertyClass) : Prop where
  rule : c.rule.isSome
  key : c.key.isSome
  kind : c.kind.isSome
  primitive : c.kind = some .scalar ∨ c.kind = some .optional → c.primitive.isSome
  sentinel : c.kind = some .optional → c.sentinel.isSome
  declared : c.kind = some .enumeration → c.declared.isSome

/-- A registered class is equipped. -/
theorem Fits.equipped {c : PropertyClass} {ref : ClassRef} {keys : List String}
    (h : c.Fits ref keys) (hk : keys ≠ []) : c.Equipped := by
  have hkind := h.kind_iff.2 hk
  have hkey : c.key.isSome := by
    rw [h.latest (h.open_of_kind hkind), List.getLast?_isSome]
    exact hk
  obtain ⟨r, hr⟩ := h.exists_rule hk
  obtain ⟨k, hck⟩ := Option.isSome_iff_exists.1 hkind
  obtain ⟨hneeds, hmembers⟩ := h.complete k hck
  refine ⟨Option.isSome_iff_exists.2 ⟨r, hr⟩, hkey, hkind, ?_, ?_, ?_⟩
  · rintro (hs | hs) <;> rw [hck] at hs <;> cases hs <;>
      exact hneeds .primitive (by simp [Kind.needs])
  · intro hs
    rw [hck] at hs
    cases hs
    exact hneeds .sentinel (by simp [Kind.needs])
  · intro hs
    rw [hck] at hs
    cases hs
    exact hmembers rfl

variable {c : PropertyClass} {ref : ClassRef} {keys : List String}

theorem shownKind_of_kind {k : Kind} (h : c.kind = some k) : c.shownKind = .ok (.inl k) := by
  rw [shownKind, h]

theorem exists_describe (h : c.Fits ref keys) (hk : keys ≠ []) (hw : c.Writable) :
    ∃ d, c.describe = .ok d := by
  have he := h.equipped hk
  obtain ⟨key, hkey⟩ := Option.isSome_iff_exists.1 he.key
  obtain ⟨k, hkind⟩ := Option.isSome_iff_exists.1 he.kind
  rw [describe, hkey, shownKind_of_kind hkind]
  cases k with
  | enumeration =>
    obtain ⟨texts, ht⟩ := exists_mapM_ok (h.exists_givenText (hw hkind))
    simp only [require, bind, Except.bind]
    rw [ht]
    exact ⟨_, rfl⟩
  | scalar =>
    obtain ⟨p, hp⟩ := Option.isSome_iff_exists.1 (he.primitive (.inl hkind))
    simp only [require, bind, Except.bind, primitiveName, hp]
    exact ⟨_, rfl⟩
  | optional =>
    obtain ⟨p, hp⟩ := Option.isSome_iff_exists.1 (he.primitive (.inr hkind))
    obtain ⟨s, hs⟩ := Option.isSome_iff_exists.1 (he.sentinel hkind)
    simp only [require, bind, Except.bind, primitiveName, hp, shownSentinel, hs]
    exact ⟨_, rfl⟩

end PropertyClass

namespace Catalog

/-- The class of a member is not found, because a text is in its place. -/
def classless : Catalog := made [("__class__", "text"), ("ON", "on")]

/-- The size of a member is an empty slot. -/
def sizeless : Catalog := made [("__slots__", "__len__"), ("ON", "on")]

end Catalog

end EditorConfig

import EditorConfig.Proofs.Inverse

/-! What fields of settings accept. Whatever a field accepts, be it given as a text or as a value,
it then holds a value that the property reads from some text. -/

namespace EditorConfig

theorem exists_parse?_of_acceptInteger {v w : Value} (h : acceptInteger v = .ok w) :
    ∃ s, Primitive.uint.parse? s = some w := by
  cases v with
  | int n =>
    simp only [acceptInteger] at h
    split at h
    · rename_i hn
      cases h
      obtain ⟨m, rfl⟩ := Int.eq_ofNat_of_zero_le hn.1
      exact ⟨toString m, Primitive.parse?_uint_eq_some_iff.2 ⟨m, rfl, by omega, rfl⟩⟩
    · cases h
  | _ => cases h

theorem exists_parse?_of_acceptTruth {v w : Value} (h : acceptTruth v = .ok w) :
    ∃ s, Primitive.bool.parse? s = some w := by
  cases v with
  | bool b =>
    cases h
    exact ⟨Truth.text b, Primitive.parse?_bool_eq_some_iff.2 ⟨b, rfl, rfl⟩⟩
  | _ => cases h

theorem acceptMember_eq_ok_iff {members : List Member} {v w : Value} :
    acceptMember members v = .ok w ↔ ∃ m ∈ members, v = .member m ∧ w = .member m := by
  cases v with
  | member n =>
    by_cases hn : n ∈ members
    · simp only [acceptMember, if_pos hn, Except.ok.injEq, Value.member.injEq]
      constructor
      · rintro rfl
        exact ⟨n, hn, rfl, rfl⟩
      · rintro ⟨m, -, rfl, rfl⟩
        rfl
    · simp only [acceptMember, if_neg hn, reduceCtorEq, Value.member.injEq, false_iff]
      rintro ⟨m, hm, rfl, -⟩
      exact hn hm
  | _ => simp [acceptMember]

namespace PropertyClass

variable {c : PropertyClass} {r : Rule} {v w : Value}

theorem acceptTyped_of_enumeration (h : c.kind = some .enumeration) (v : Value) :
    c.acceptTyped v = acceptMember c.members v := by
  unfold acceptTyped
  rw [h]

theorem exists_parse?_of_acceptTyped {p : Primitive}
    (hk : c.kind = some .scalar ∨ c.kind = some .optional) (hp : c.primitive = some p)
    (hv : v ≠ .explicitNone) (h : c.acceptTyped v = .ok w) : ∃ s, p.parse? s = some w := by
  cases p with
  | uint =>
    have hnumber : c.acceptTyped v = acceptInteger v := by
      unfold acceptTyped
      rcases hk with hk | hk <;> cases v <;> simp_all
    exact exists_parse?_of_acceptInteger (hnumber ▸ h)
  | bool =>
    have htruth : c.acceptTyped v = acceptTruth v := by
      unfold acceptTyped
      rcases hk with hk | hk <;> cases v <;> simp_all
    exact exists_parse?_of_acceptTruth (htruth ▸ h)

/-- A value that is accepted as such is read from some text. -/
theorem Follows.exists_parse_of_acceptTyped {ref : ClassRef} {keys : List String}
    (hc : c.Follows r) (hfits : c.Fits ref keys) (hl : c.Legible) (hd : c.Distinguishable)
    (h : c.acceptTyped v = .ok w) : ∃ s, c.parse s = .ok (some w) := by
  have hkind := hc.kind
  cases r with
  | enumeration =>
    rw [acceptTyped_of_enumeration hkind] at h
    obtain ⟨m, hm, -, rfl⟩ := acceptMember_eq_ok_iff.1 h
    obtain ⟨s, hs⟩ := hfits.exists_givenText (hl hc.rule) m hm
    have hfound := (matching?_eq_some_iff hfits hd).2 ⟨hm, hs⟩
    refine ⟨s, ?_⟩
    rw [parse_of_rule hc.rule, Rule.parse, hfound]
    rfl
  | scalar p =>
    have hv : v ≠ .explicitNone := by
      rintro rfl
      unfold acceptTyped at h
      rw [hkind] at h
      cases h
    obtain ⟨s, hs⟩ := exists_parse?_of_acceptTyped (.inl hkind) (hc.primitive p rfl) hv h
    refine ⟨s, ?_⟩
    rw [parse_of_rule hc.rule, Rule.parse, hs]
  | optional p sentinel =>
    by_cases hv : v = .explicitNone
    · subst hv
      have hw : w = .explicitNone := by
        unfold acceptTyped at h
        rw [hkind] at h
        exact (Except.ok.inj h).symm
      exact ⟨sentinel, (parse_of_optional hc.rule hc.objection).2 (.inl ⟨hw, rfl⟩)⟩
    · obtain ⟨s, hs⟩ := exists_parse?_of_acceptTyped (.inr hkind) (hc.primitive p rfl) hv h
      exact ⟨s, (parse_of_optional hc.rule hc.objection).2 (.inr hs)⟩

theorem acceptText_eq_ok {s : String} (h : c.acceptText s = .ok w) : c.parse s = .ok (some w) := by
  unfold acceptText at h
  split at h
  · rename_i u hu
    rw [hu, Except.ok.inj h]
  · cases h
  · cases h

/-- What a field holds after it was given a value is read from some text. -/
theorem Follows.exists_parse_of_accept {ref : ClassRef} {keys : List String} (hc : c.Follows r)
    (hfits : c.Fits ref keys) (hl : c.Legible) (hd : c.Distinguishable)
    (h : c.accept v = .ok (some w)) : ∃ s, c.parse s = .ok (some w) := by
  unfold accept at h
  split at h
  · cases h
  · rename_i s
    cases hs : c.acceptText s with
    | error f => simp [hs, Except.map] at h
    | ok u =>
      obtain rfl : u = w := by simpa [hs, Except.map] using h
      exact ⟨s, acceptText_eq_ok hs⟩
  · cases ht : c.acceptTyped v with
    | error f => simp [ht, Except.map] at h
    | ok u =>
      obtain rfl : u = w := by simpa [ht, Except.map] using h
      exact hc.exists_parse_of_acceptTyped hfits hl hd ht

end PropertyClass

end EditorConfig

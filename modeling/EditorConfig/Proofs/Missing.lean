import EditorConfig.Properties
import EditorConfig.Proofs.Reading

/-! Failures about missing attributes. Rendering by a primitive and looking at entries fail for
other reasons, and so does reading a value, unless there is a slot in place of its size. -/

namespace EditorConfig

theorem exists_mapM_ok {α β : Type} {f : α → Except Failure β} {as : List α}
    (h : ∀ a ∈ as, ∃ b, f a = .ok b) : ∃ bs, as.mapM f = .ok bs := by
  induction as with
  | nil => exact ⟨[], rfl⟩
  | cons a rest ih =>
    obtain ⟨b, hb⟩ := h a List.mem_cons_self
    obtain ⟨bs, hbs⟩ := ih fun x hx => h x (List.mem_cons_of_mem a hx)
    exact ⟨b :: bs, by rw [List.mapM_cons, hb, hbs]; rfl⟩

namespace Failure

end Failure

theorem Member.obstacle?_of_none {m : Member} {hook : Hook} (h : m.hook? hook = none) :
    m.obstacle? hook = none := by
  unfold obstacle?
  rw [h]

/-- A value that is no text is not compared, or it is a member with something for its size. -/
theorem Primitive.read_eq_error {p : Primitive} {v : Value} {f : Failure}
    (h : p.read v = .error f) :
    f = .unreadable v ∨ ∃ m, v = .member m ∧ m.obstacle? .size = some f := by
  have hrest : (if p.comparable v then .ok none else .error (.unreadable v)) =
      (.error f : Except Failure (Option Value)) → f = .unreadable v := by
    intro h
    split at h <;> cases h
    rfl
  cases p with
  | uint =>
    cases v with
    | text s => cases h
    | member m =>
      cases hm : m.obstacle? .size with
      | none => simp_all [read]
      | some g => simp_all [read]
    | _ => exact .inl (hrest h)
  | bool =>
    cases v with
    | text s => cases h
    | _ => exact .inl (hrest h)

end EditorConfig

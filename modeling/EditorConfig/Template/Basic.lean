import EditorConfig.Failure

/-! Templates: texts with fields between braces. A field has a name, which may be empty, after an
exclamation mark a conversion, and after a colon a layout, which may have fields of its own. Braces
that are not about fields are written twice. -/

namespace EditorConfig.Template

structure Field where
  name : List Char
  conversion : Option Char
  layout : List Char

inductive Piece
  | character (c : Char)
  | field (f : Field)

/-- The name at the beginning of a field, and the rest from the character that ends the name. In an
index all characters belong to the name; `inside` says that the reading is in one. -/
def scanName : Bool → List Char → Except Fault (List Char × List Char)
  | _, [] => .error .unclosedField
  | inside, c :: rest =>
    if !inside && c == '\x7b' then .error .braceInName
    else if !inside && [':', '!', '\x7d'].contains c then .ok ([], c :: rest)
    else do
      let (name, tail) ← scanName (if inside then c != ']' else c == '[') rest
      return (c :: name, tail)

/-- The layout at the beginning of a text, and the rest after the brace that closes the field, with
`depth` fields open inside the layout. -/
def scanLayout : Nat → List Char → Except Fault (List Char × List Char)
  | _, [] => .error .unclosedLayout
  | depth, c :: rest =>
    if c = '\x7d' ∧ depth = 0 then .ok ([], rest)
    else do
      let inner := if c = '\x7b' then depth + 1 else if c = '\x7d' then depth - 1 else depth
      let (layout, tail) ← scanLayout inner rest
      return (c :: layout, tail)

/-- The field at the beginning of a text, whose opening brace is read, and the rest after it. -/
def scanField (cs : List Char) : Except Fault (Field × List Char) := do
  let (name, rest) ← scanName false cs
  match rest with
  | '\x7d' :: tail => return (⟨name, none, []⟩, tail)
  | ':' :: rest =>
    let (layout, tail) ← scanLayout 0 rest
    return (⟨name, none, layout⟩, tail)
  | ['!'] => .error .missingConversion
  | ['!', _] => .error .unclosedLayout
  | '!' :: c :: '\x7d' :: tail => return (⟨name, some c, []⟩, tail)
  | '!' :: c :: ':' :: rest =>
    let (layout, tail) ← scanLayout 0 rest
    return (⟨name, some c, layout⟩, tail)
  | '!' :: _ => .error .looseConversion
  | _ => .error .unclosedField

theorem length_scanName {inside : Bool} {cs name tail : List Char}
    (h : scanName inside cs = .ok (name, tail)) : tail.length ≤ cs.length := by
  induction cs generalizing inside name with
  | nil => cases h
  | cons c rest ih =>
    rw [scanName] at h
    split at h
    · cases h
    · split at h
      · cases h
        exact Nat.le_refl _
      · obtain ⟨⟨n, t⟩, hr, hn⟩ := bind_eq_ok h
        cases hn
        exact Nat.le_succ_of_le (ih hr)

theorem length_scanLayout {depth : Nat} {cs layout tail : List Char}
    (h : scanLayout depth cs = .ok (layout, tail)) : tail.length ≤ cs.length := by
  induction cs generalizing depth layout with
  | nil => cases h
  | cons c rest ih =>
    rw [scanLayout] at h
    split at h
    · cases h
      exact Nat.le_succ _
    · obtain ⟨⟨l, t⟩, hr, hl⟩ := bind_eq_ok h
      cases hl
      exact Nat.le_succ_of_le (ih hr)

theorem length_scanField {cs tail : List Char} {f : Field} (h : scanField cs = .ok (f, tail)) :
    tail.length ≤ cs.length := by
  rw [scanField] at h
  obtain ⟨⟨name, rest⟩, hn, h⟩ := bind_eq_ok h
  have hlen := length_scanName hn
  dsimp only at h
  split at h
  · cases h
    simp only [List.length_cons] at hlen
    omega
  · obtain ⟨⟨l, t⟩, hl, h⟩ := bind_eq_ok h
    cases h
    have ht : t.length ≤ _ := length_scanLayout hl
    simp only [List.length_cons] at hlen
    change t.length ≤ cs.length
    omega
  · cases h
  · cases h
  · cases h
    simp only [List.length_cons] at hlen
    omega
  · obtain ⟨⟨l, t⟩, hl, h⟩ := bind_eq_ok h
    cases h
    have ht : t.length ≤ _ := length_scanLayout hl
    simp only [List.length_cons] at hlen
    change t.length ≤ cs.length
    omega
  · cases h
  · cases h

/-- The pieces of a template, up to the first fault. -/
def pieces : List Char → List Piece × Option Fault
  | [] => ([], none)
  | [c] =>
    if c = '\x7b' ∨ c = '\x7d' then ([], some (.loneBrace c)) else ([.character c], none)
  | c :: d :: rest =>
    if (c = '\x7b' ∨ c = '\x7d') ∧ d = c then
      let (tail, fault) := pieces rest
      (.character c :: tail, fault)
    else if c = '\x7d' then ([], some (.loneBrace c))
    else if c = '\x7b' then
      match _h : scanField (d :: rest) with
      | .error fault => ([], some fault)
      | .ok (f, after) =>
        let (tail, fault) := pieces after
        (.field f :: tail, fault)
    else
      let (tail, fault) := pieces (d :: rest)
      (.character c :: tail, fault)
termination_by cs => cs.length
decreasing_by
  all_goals simp only [List.length_cons]
  · omega
  · have := length_scanField _h
    simp only [List.length_cons] at this
    omega
  · omega

end EditorConfig.Template

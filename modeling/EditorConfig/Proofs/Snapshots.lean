import Mathlib.Data.List.Induction
import EditorConfig.Session.History
import EditorConfig.Proofs.Restored
import EditorConfig.Proofs.Standards

/-! Saved settings as snapshots. What they look like is worked out anew whenever it is asked for,
but from their fields and the standard classes only. No command of a session reaches the classes,
and of those that set attributes only one reaches the fields. -/

namespace EditorConfig

/-- What is relied on about instances that are frozen. -/
structure Host.Frozen (host : Host) : Prop where
  /-- Public attributes cannot be set. -/
  refused : ∀ x name v, Instance.isHidden name = false → ∃ f, host.assign x name v = .error f
  /-- The fields of an instance that has all of them are in one attribute, and change with no
  other. -/
  kept : ∀ s name v x, Instance.isHidden name → name ≠ Instance.fieldsName →
    host.assign (.ofSettings s) name v = .ok x → x = .ofSettings s

/-- Instances with all fields keep them, whatever is done to attributes other than that of all
fields. -/
theorem Host.Frozen.eq_of_assign {host : Host} (hf : host.Frozen) {t : Settings} {name : String}
    {v : Value} {x : Instance} (hname : name ≠ Instance.fieldsName)
    (h : host.assign (.ofSettings t) name v = .ok x) : x = .ofSettings t := by
  cases hhidden : Instance.isHidden name with
  | true => exact hf.kept t name v x hhidden hname h
  | false =>
    obtain ⟨f, hrefused⟩ := hf.refused (.ofSettings t) name v hhidden
    rw [hrefused] at h
    cases h

namespace Session

/-- What a command can do to a session. -/
inductive Step (s : Session) (host : Host) (command : Command) : Session → Prop
  | same : Step s host command s
  | saved {name : String} {t : Settings} :
      command.target? = some name → t.Produced →
      Step s host command { s with saved := (name, .ofSettings t) :: s.saved }
  | assigned {name field : String} {raw : Term} {v : Value} {x y : Instance} :
      command = .assign name field raw → s.saved? name = .ok x → host.assign x field v = .ok y →
      Step s host command { s with saved := (name, y) :: s.saved }
  | changed {change : Change} :
      change.Custom → Step s host command { s with catalog := (s.catalog.apply change).1 }

theorem step_save (s : Session) (host : Host) (command : Command) {t : Settings}
    (ht : t.Produced) : s.Step host command (s.save command.target? (.ofSettings t)) := by
  cases hn : command.target? with
  | none => exact .same
  | some name => exact .saved hn ht

theorem step_cases {s : Session} (host : Host) {command : Command} (hc : command.Custom)
    (h : s.catalog.Reachable) : s.Step host command (s.step host command).1 := by
  cases command with
  | ask q => exact .same
  | resolve strict raw name =>
    rw [step, resolve]
    split
    · exact .same
    · rename_i v hv
      simp only
      split
      · exact .same
      · rename_i r hr
        exact s.step_save host (.resolve strict raw name) (.resolved h hr)
  | settings data name =>
    rw [step, build]
    split
    · exact .same
    · rename_i t ht
      obtain ⟨entries, -, hbuilt⟩ := bind_eq_ok ht
      exact s.step_save host (.settings data name) (.built h hbuilt)
  | assign name field raw =>
    rw [step, assign]
    split
    · exact .same
    · rename_i y hy
      obtain ⟨x, hx, hrest⟩ := bind_eq_ok hy
      obtain ⟨v, -, hassign⟩ := bind_eq_ok hrest
      exact .assigned rfl hx hassign
  | change c => exact .changed hc

theorem Step.catalog {s next : Session} {host : Host} {command : Command}
    (hs : s.Step host command next) (h : s.catalog.Reachable) : next.catalog.Reachable := by
  cases hs with
  | changed hc => exact .step h hc
  | _ => exact h

theorem Reaches.catalog {host : Host} {allowed : Session → Command → Prop} {s later : Session}
    (hl : s.Reaches host allowed later) (h : s.catalog.Reachable) : later.catalog.Reachable := by
  induction hl with
  | refl => exact h
  | step _ hc _ ih => exact (step_cases host hc ih).catalog ih

theorem Reachable.catalog {host : Host} {s : Session} (h : s.Reachable host) :
    s.catalog.Reachable :=
  Reaches.catalog h .initial

theorem Spares.not_saves {s : Session} {host : Host} {name other : String} {command : Command}
    (h : s.Spares host name command) (hn : command.target? = some other) :
    ¬ s.Saves host name command := by
  cases command with
  | assign => cases hn
  | _ => exact h

/-- A step that spares settings leaves them where they are. -/
theorem Step.saved?_eq {s : Session} {host : Host} {command : Command} {name : String}
    {t : Settings} (hs : s.Step host command (s.step host command).1) (hf : host.Frozen)
    (hspares : s.Spares host name command) (ht : s.saved? name = .ok (.ofSettings t)) :
    (s.step host command).1.saved? name = .ok (.ofSettings t) := by
  generalize hnext : (s.step host command).1 = next at hs
  cases hs with
  | same => exact ht
  | @saved other u hn _ =>
    have hne : name ≠ other := by
      rintro rfl
      exact hspares.not_saves hn ⟨.ofSettings u, by rw [hnext]⟩
    rw [saved?, List.lookup_cons, beq_eq_false_iff_ne.2 hne]
    exact ht
  | @assigned other field raw v x y hc hx hy =>
    subst hc
    by_cases hother : other = name
    · subst hother
      obtain rfl : Instance.ofSettings t = x := Except.ok.inj (ht.symm.trans hx)
      obtain rfl := hf.eq_of_assign (hspares rfl) hy
      rw [saved?, List.lookup_cons_self]
    · rw [saved?, List.lookup_cons, beq_eq_false_iff_ne.2 (Ne.symm hother)]
      exact ht
  | changed _ => exact ht

theorem Keeps.saved? {s later : Session} {host : Host} {name : String} {t : Settings}
    (hk : s.Keeps host name later) (hf : host.Frozen) (h : s.catalog.Reachable)
    (ht : s.saved? name = .ok (.ofSettings t)) : later.saved? name = .ok (.ofSettings t) := by
  induction hk with
  | refl => exact ht
  | step hr hc hspares ih =>
    exact (step_cases host hc (Reaches.catalog hr h)).saved?_eq hf hspares ih

/-- Replaces all fields of the saved settings. -/
def replacement : Command :=
  .assign "project" Instance.fieldsName (.mapping (StandardProperty.all.map fun p =>
    (.given (.text p.key), .given (if p = .tabWidth then .int 4 else .null))))

end Session

end EditorConfig

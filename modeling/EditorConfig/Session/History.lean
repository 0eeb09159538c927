import EditorConfig.Catalog.History
import EditorConfig.Session

/-! Histories of sessions. A session goes on by commands that leave the standard classes alone,
whether or not they succeed. What is saved under a name is spared until a command saves other
settings under it, or replaces all of their fields. -/

namespace EditorConfig

/-- A command that declares no standard class. -/
def Command.Custom : Command → Prop
  | .change c => c.Custom
  | _ => True

/-- The name that the command saves settings under if it succeeds. -/
def Command.target? : Command → Option String
  | .resolve _ _ name => name
  | .settings _ name => name
  | _ => none

namespace Session

/-- One session comes from another by custom commands, all of them allowed where they are given. -/
inductive Reaches (host : Host) (allowed : Session → Command → Prop) (start : Session) :
    Session → Prop
  | refl : Reaches host allowed start start
  | step {s : Session} {command : Command} :
      Reaches host allowed start s → command.Custom → allowed s command →
      Reaches host allowed start (s.step host command).1

def Reachable (host : Host) (s : Session) : Prop := initial.Reaches host (fun _ _ => True) s

/-- The command saves settings under the name. -/
def Saves (s : Session) (host : Host) (name : String) (command : Command) : Prop :=
  ∃ x, (s.step host command).1.saved = (name, x) :: s.saved

/-- The command neither saves settings under the name nor replaces the fields of those that are
saved there. -/
def Spares (s : Session) (host : Host) (name : String) : Command → Prop
  | .assign other field _ => other = name → field ≠ Instance.fieldsName
  | command => ¬ s.Saves host name command

/-- The session goes on to another one by commands that spare what is saved under the name. -/
def Keeps (s : Session) (host : Host) (name : String) (later : Session) : Prop :=
  s.Reaches host (fun t command => t.Spares host name command) later

theorem Reachable.initial (host : Host) : Reachable host Session.initial := .refl

end Session

end EditorConfig

import EditorConfig.Settings.Basic

/-! Resolution of raw properties. Entries are taken one after another: an unknown key, a text that
is not recognized and an accepted value each go where they belong, and what is not accepted is
logged at once. The settings are made of the accepted values once all entries are taken. -/

namespace EditorConfig

inductive Level
  | debug
  | info
  | warning
  deriving DecidableEq

structure LogRecord where
  level : Level
  text : String
  deriving DecidableEq

structure Resolution where
  settings : Settings
  warnings : List String
  /-- The texts that are not recognized, with their keys. -/
  unrecognized : List (String × String)
  unknownKeys : List String

/-- What has been collected from the entries taken so far. -/
structure Progress where
  /-- The accepted values, with their keys. -/
  values : List (String × Value) := []
  unrecognized : List (String × String) := []
  unknownKeys : List String := []
  warnings : List String := []
  logs : List LogRecord := []

namespace Progress

/-- Takes an entry whose key is not registered. -/
def ignore (p : Progress) (key : String) : Progress :=
  { p with
    unknownKeys := p.unknownKeys ++ [key]
    logs := p.logs ++ [⟨.debug, "Ignoring unknown property: " ++ key⟩] }

/-- Takes an entry whose text is not recognized. -/
def warn (p : Progress) (key raw : String) : Progress :=
  { p with
    unrecognized := Entries.put (· == ·) key raw p.unrecognized
    warnings := p.warnings ++ [unrecognizedText key (.text raw)]
    logs := p.logs ++ [⟨.warning, unrecognizedText key (.text raw)⟩] }

/-- Takes an entry whose text stands for a value. -/
def accept (p : Progress) (key : String) (v : Value) : Progress :=
  { p with values := Entries.put (· == ·) key v p.values }

/-- The last record of a resolution, which counts what has been collected. -/
def summary (p : Progress) : LogRecord :=
  ⟨.info, "Resolved " ++ toString p.values.length ++ " properties (" ++
    toString p.unrecognized.length ++ " unrecognized, " ++ toString p.unknownKeys.length ++
    " unknown)"⟩

end Progress

/-- What a resolution has logged, and how it ended. -/
structure Run where
  logs : List LogRecord
  result : Except Failure Resolution

namespace Catalog

/-- Takes an entry. -/
def take (cat : Catalog) (p : Progress) (key raw : String) : Except Failure Progress :=
  match cat.property? key with
  | none => .ok (p.ignore key)
  | some c => do
    match ← c.parse raw with
    | none => return p.warn key raw
    | some v => return p.accept key v

/-- Takes entries in order, up to the first one whose text cannot be read. -/
def takeAll (cat : Catalog) (p : Progress) :
    List (String × String) → Progress × Except Failure Unit
  | [] => (p, .ok ())
  | (key, raw) :: rest =>
    match cat.take p key raw with
    | .error f => (p, .error f)
    | .ok next => takeAll cat next rest

/-- Builds the settings once all entries are taken. In strict mode a warning is a failure. -/
def conclude (cat : Catalog) (strict : Bool) (p : Progress) : Except Failure Resolution :=
  if strict ∧ p.warnings ≠ [] then .error (.strictWarnings p.warnings)
  else
    match Settings.ofMapping cat (p.values.map fun e => (.text e.1, e.2)) with
    | .ok s => .ok ⟨s, p.warnings, p.unrecognized, p.unknownKeys⟩
    | .error (.invalidFields issues) => .error (.unbuildable issues)
    | .error f => .error f

/-- Resolves properties. The summary is logged only in the end. -/
def resolveProperties (cat : Catalog) (strict : Bool) (raw : Properties) : Run :=
  let (p, outcome) := cat.takeAll {} raw.entries
  match (do outcome; cat.conclude strict p) with
  | .ok r => ⟨p.logs ++ [p.summary], .ok r⟩
  | .error f => ⟨p.logs, .error f⟩

/-- Resolves a value, which must be a mapping from texts to texts. -/
def resolve (cat : Catalog) (strict : Bool) (raw : Value) : Run :=
  match raw.properties with
  | .ok properties => cat.resolveProperties strict properties
  | .error f => ⟨[], .error f⟩

end Catalog

end EditorConfig

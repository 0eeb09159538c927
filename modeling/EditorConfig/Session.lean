import EditorConfig.Catalog.Change
import EditorConfig.Lookup
import EditorConfig.Property.Description
import EditorConfig.Resolution
import EditorConfig.Settings.Instance
import EditorConfig.Term
import EditorConfig.Validation

/-! Sessions: a catalog that changes, settings saved under names, and the commands that work on
them. The terms of a command are evaluated in the catalog that it finds. -/

namespace EditorConfig

/-- What sessions rely on: what dumps mappings, and what sets the attributes of instances. -/
structure Host where
  dump : Yaml.Dump
  assign : Instance → String → Value → Except Failure Instance

def Host.standard : Host := ⟨Yaml.dump, Instance.assign⟩

structure Session where
  catalog : Catalog
  /-- Names with the instances saved under them, the latest first. -/
  saved : List (String × Instance)

/-- What can be asked without changing the session. -/
inductive Query
  | parsePrimitive (p : Primitive) (raw : String)
  | renderPrimitive (p : Primitive) (v : Term)
  | parse (prop : PropertyRef) (raw : String)
  | render (prop : PropertyRef) (v : Term)
  | describe (prop : PropertyRef)
  | listing
  | knows (key : String)
  | className (key : String)
  | literal (enumeration name : String)
  | get (raw : List (Term × Term)) (prop : PropertyRef)
  | getOr (raw : List (Term × Term)) (prop : PropertyRef) (default : Term)
  | validate (raw : Term)
  | view (name : String)
  | field (name : String) (prop : PropertyRef)

inductive Command
  | ask (q : Query)
  | resolve (strict : Bool) (raw : Term) (save : Option String)
  | settings (data : List (Term × Term)) (save : Option String)
  /-- Sets an attribute of the instance saved under a name. -/
  | assign (name field : String) (v : Term)
  | change (c : Change)

inductive Answer
  | value (v : Option Value)
  /-- A recognized value with the text that stands for it. -/
  | parsed (v : Value) (text : String)
  | text (s : String)
  | described (d : Description)
  | listed (properties : List Description) (classes : List String)
  | known (b : Bool)
  | className (name : String)
  | literal (text : String) (sequence codec : Option String)
  | resolved (view : View) (r : Resolution) (logs : List LogRecord)
  | unresolved (f : Failure) (logs : List LogRecord)
  | reports (texts : List String)
  | view (v : View)
  | made
  | assigned
  | declared (key : String) (k : Kind)
  | failed (f : Failure)

/-- The answer, or the failure as one. -/
def Answer.ofResult : Except Failure Answer → Answer
  | .ok a => a
  | .error f => .failed f

namespace Session

def initial : Session := ⟨Catalog.initial, []⟩

/-- The instance saved under a name. -/
def saved? (s : Session) (name : String) : Except Failure Instance :=
  match s.saved.lookup name with
  | some x => .ok x
  | none => .error (.noSuchSettings name)

def save (s : Session) (name : Option String) (x : Instance) : Session :=
  match name with
  | some name => { s with saved := (name, x) :: s.saved }
  | none => s

/-- Parses a text, and writes the value again if there is one. -/
def parse (s : Session) (prop : PropertyRef) (raw : String) : Except Failure Answer := do
  let c ← s.catalog.find prop
  match ← c.parse raw with
  | none => return .value none
  | some v =>
    let _ ← v.shown
    return .parsed v (← s.catalog.render c v)

/-- Descriptions and class names of the standard properties, in catalog order. -/
def listing (s : Session) : Except Failure Answer := do
  let descriptions ← StandardProperty.all.mapM fun p => (s.catalog.standard p).describe
  return .listed descriptions (StandardProperty.all.map fun p => (s.catalog.standard p).name)

/-- The text of a standard literal; line endings and charsets have more to show. -/
def literal (s : Session) (enumeration name : String) : Except Failure Answer := do
  match ← s.catalog.standardLiteral enumeration name with
  | .member m => return .literal m.text m.sequence? m.codec?
  | _ => return .literal Value.explicitText none none

/-- The mapping that is given by pairs of terms. -/
def mapping (s : Session) (pairs : List (Term × Term)) : Except Failure (List (Value × Value)) :=
  Term.entries s.catalog pairs

def answer (s : Session) (host : Host) : Query → Except Failure Answer
  | .parsePrimitive p raw => .ok (.value (p.parse? raw))
  | .renderPrimitive p v => do return .text (← p.render (← v.eval s.catalog))
  | .parse prop raw => s.parse prop raw
  | .render prop v => do
    let c ← s.catalog.find prop
    return .text (← s.catalog.render c (← v.eval s.catalog))
  | .describe prop => do return .described (← (← s.catalog.find prop).describe)
  | .listing => s.listing
  | .knows key => .ok (.known (s.catalog.knows key))
  | .className key => do return .className (← s.catalog.property key).name
  | .literal enumeration name => s.literal enumeration name
  | .get raw prop => do
    let v ← s.catalog.get (← s.mapping raw) prop
    return .value (some (← v.shown))
  | .getOr raw prop default => do
    let entries ← s.mapping raw
    let d ← default.eval s.catalog
    let v ← s.catalog.getOr entries prop d
    return .value (some (← v.shown))
  | .validate raw => do return .reports (← s.catalog.validate (← raw.eval s.catalog))
  | .view name => do return .view (← (← s.saved? name).view host.dump s.catalog)
  | .field name prop => do
    let x ← s.saved? name
    let c ← s.catalog.find prop
    return .value (← x.get (← c.require .key c.key))

/-- Resolves a value and saves the settings. -/
def resolve (s : Session) (host : Host) (strict : Bool) (raw : Term) (name : Option String) :
    Session × Answer :=
  match raw.eval s.catalog with
  | .error f => (s, .unresolved f [])
  | .ok v =>
    let run := s.catalog.resolve strict v
    match run.result with
    | .error f => (s, .unresolved f run.logs)
    | .ok r =>
      (s.save name (.ofSettings r.settings),
        match r.settings.view host.dump s.catalog with
        | .ok view => .resolved view r run.logs
        | .error f => .failed f)

/-- Builds settings from a mapping and saves them. -/
def build (s : Session) (host : Host) (data : List (Term × Term)) (name : Option String) :
    Session × Answer :=
  match (do Settings.ofMapping s.catalog (← s.mapping data)) with
  | .error f => (s, .failed f)
  | .ok t =>
    (s.save name (.ofSettings t), .ofResult do return .view (← t.view host.dump s.catalog))

/-- Sets an attribute of a saved instance, which takes the place of the one before. -/
def assign (s : Session) (host : Host) (name field : String) (v : Term) : Session × Answer :=
  match (do host.assign (← s.saved? name) field (← v.eval s.catalog)) with
  | .error f => (s, .failed f)
  | .ok x => (s.save (some name) x, .assigned)

/-- Changes the catalog. -/
def change (s : Session) (c : Change) : Session × Answer :=
  let (catalog, result) := s.catalog.apply c
  ({ s with catalog := catalog },
    match result, c with
    | .error f, _ => .failed f
    | .ok (), .newClass _ _ => .made
    | .ok (), .declare _ r key => .declared key r.kind)

def step (s : Session) (host : Host) : Command → Session × Answer
  | .ask q => (s, .ofResult (s.answer host q))
  | .resolve strict raw name => s.resolve host strict raw name
  | .settings data name => s.build host data name
  | .assign name field v => s.assign host name field v
  | .change c => s.change c

/-- The session after commands. -/
def after (s : Session) (host : Host) (commands : List Command) : Session :=
  commands.foldl (fun s command => (s.step host command).1) s

end Session

end EditorConfig

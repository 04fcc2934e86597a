import Preseed.Plugin.Basic

/-!
# Directives from settings

Directives and script lines for every client and for the members of classes. Values and lines expand the
placeholders for the client. A class's section applies once, in the order of the client's classes.
-/

namespace Preseed.Directives

/-- What is written for one class, or for all clients. -/
structure Section where
  preseed : List Directive := []
  early : List String := []
  late : List String := []
  deriving DecidableEq, Repr, Inhabited

structure Settings where
  common : Section := {}
  /-- The sections of classes; each class has at most one. -/
  classes : List (String × Section) := []
  deriving DecidableEq, Repr, Inhabited

/-- The first occurrence of every text that is not among those seen. -/
def firsts (seen : List String) : List String → List String
  | [] => []
  | c :: rest => if seen.contains c then firsts seen rest else c :: firsts (c :: seen) rest

/-- The common section and those of the client's classes, in their order. -/
def sections (settings : Settings) (client : Client) : List Section :=
  settings.common ::
    (firsts [] client.classes).filterMap fun c => settings.classes.lookup c

def expandDirective (client : Client) (d : Directive) : Directive :=
  { d with value := client.expand d.value }

/-- The lines that a hook writes. -/
def lines (settings : Settings) (client : Client) : Hook → List String
  | .preseed =>
    (sections settings client).flatMap fun s =>
      s.preseed.map fun d => (expandDirective client d).text
  | .scriptEarly => (sections settings client).flatMap fun s => s.early.map client.expand
  | .scriptLate => (sections settings client).flatMap fun s => s.late.map client.expand
  | .setUp => []
  | .tearDown => []

/-! ## Settings -/

def sectionShape : Record.Shape where
  expected := "struct Section"
  names := ["preseed", "early", "late"]
  closed := true

def setSectionField (s : Section) (name : String) (v : Yaml.Value) :
    Except Record.Problem Section := do
  match name with
  | "preseed" => pure { s with preseed := ← Record.list Directive.read v }
  | "early" => pure { s with early := ← Record.list Record.text v }
  | _ => pure { s with late := ← Record.list Record.text v }

def readSection (v : Yaml.Value) : Except Record.Problem Section :=
  Record.read sectionShape {} setSectionField v

/-- The sections by class; of two under one name the last counts. -/
def readClasses (v : Yaml.Value) : Except Record.Problem (List (String × Section)) := do
  (← v.readEntries "a map").foldlM (fun found (k, v) => do
    let name ← Record.text k
    let s ← readSection v
    pure ((found.filter (·.1 != name)) ++ [(name, s)])) []

def shape : Record.Shape where
  expected := "struct DirectivesSettings"
  names := ["preseed", "early", "late", "classes"]
  closed := true

def setField (s : Settings) (name : String) (v : Yaml.Value) : Except Record.Problem Settings := do
  match name with
  | "classes" => pure { s with classes := ← readClasses v }
  | _ => pure { s with common := ← setSectionField s.common name v }

def readSettings (v : Yaml.Value) : Except Record.Problem Settings :=
  Record.read shape {} setField v

/-! ## The plugin -/

def kind : String := "Directives"

/-- A plugin without state of its own. -/
def plugin {σ : Type} (state : σ) (settings : Settings) (client : Client) : Plugin σ where
  state
  call hook _ s := { state := s, lines := lines settings client hook }

def factory {σ : Type} (state : σ) : Factory σ where
  make init := do
    let settings ← init.read {} readSettings
    pure (plugin state settings init.client)

end Preseed.Directives

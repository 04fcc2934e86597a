import Preseed.Plugin.Basic

/-!
# Directives from the directory

The lines that the directory holds for the client's classes. They are looked up once at the start; a
failed look-up leaves what an earlier one found.
-/

namespace Preseed.LdapDirectives

structure Settings where
  baseDn : Option String := none
  objectClass : String := "preseedClass"
  classAttribute : String := "cn"
  /-- The attribute that holds lines of the preseed file; the next two hold lines of the scripts. -/
  preseedAttribute : String := "preseedDirective"
  earlyAttribute : String := "preseedEarlyCommand"
  lateAttribute : String := "preseedLateCommand"
  deriving DecidableEq, Repr, Inhabited

def filter (settings : Settings) (name : String) : Filter :=
  .all [.equals "objectClass" settings.objectClass, .equals settings.classAttribute name]

def request (settings : Settings) (name : String) : SearchRequest :=
  { base := settings.baseDn.getD "", filter := filter settings name
    attributes := [settings.preseedAttribute, settings.earlyAttribute, settings.lateAttribute] }

/-- The entries of every class in turn; the first failing search ends it. -/
def collect (settings : Settings) (session : Session) :
    List String → Except DirectoryError (List Entry)
  | [] => .ok []
  | c :: rest => do
    let found ← session.search (request settings c)
    let more ← collect settings session rest
    pure (found ++ more)

def valuesOf (name : String) (entries : List Entry) : List String :=
  entries.flatMap fun e => e.values name

/-- What a call of a hook does; the state is what was found at the start. -/
def call (settings : Settings) (session : Session) (client : Client) :
    Hook → List Entry → Reply (List Entry)
  | .setUp, entries =>
    match collect settings session client.classes with
    | .ok found => { state := found }
    | .error e => { state := entries, failure := some (.directory e) }
  | .preseed, entries => { state := entries, lines := valuesOf settings.preseedAttribute entries }
  | .scriptEarly, entries => { state := entries, lines := valuesOf settings.earlyAttribute entries }
  | .scriptLate, entries => { state := entries, lines := valuesOf settings.lateAttribute entries }
  | .tearDown, entries => { state := entries }

def shape : Record.Shape where
  expected := "struct LdapDirectivesSettings"
  names := ["base_dn", "object_class", "class_attribute", "attribute", "early_attribute",
    "late_attribute"]
  closed := true

def setField (s : Settings) (name : String) (v : Yaml.Value) : Except Record.Problem Settings := do
  match name with
  | "base_dn" => pure { s with baseDn := ← Record.optionalText v }
  | "object_class" => pure { s with objectClass := ← Record.text v }
  | "class_attribute" => pure { s with classAttribute := ← Record.text v }
  | "attribute" => pure { s with preseedAttribute := ← Record.text v }
  | "early_attribute" => pure { s with earlyAttribute := ← Record.text v }
  | _ => pure { s with lateAttribute := ← Record.text v }

def readSettings (v : Yaml.Value) : Except Record.Problem Settings :=
  Record.read shape {} setField v

def kind : String := "LdapDirectives"

def plugin (settings : Settings) (session : Session) (client : Client) : Plugin (List Entry) where
  state := []
  call hook _ entries := call settings session client hook entries

def factory : Factory (List Entry) where
  make init := do
    let settings ← init.read {} readSettings
    if (settings.baseDn.getD "").isEmpty then
      throw (.settings init.name "base_dn is required")
    pure (plugin settings init.session init.client)

end Preseed.LdapDirectives

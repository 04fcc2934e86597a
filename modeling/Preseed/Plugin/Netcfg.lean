import Preseed.Plugin.Basic
import Preseed.Text.Blank

/-!
# Network answers

The interface to configure, and the host's name and domain as its address tells them.
-/

namespace Preseed.Netcfg

structure Settings where
  interface : String := "auto"
  /-- A template for the host's name; the derived name without one. -/
  hostname : Option String := none
  /-- Whether the installer is told to ignore the name that the network offers. -/
  forceHostname : Bool := false
  deriving DecidableEq, Repr, Inhabited

def hostname (settings : Settings) (client : Client) : String :=
  match settings.hostname with
  | some template => client.expand template
  | none => client.derivedHostname

def directives (settings : Settings) (client : Client) : List Directive :=
  let name := hostname settings client
  [{ Directive.string "netcfg/choose_interface" settings.interface with type := "select" },
    Directive.string "netcfg/get_hostname" name] ++
    client.domain.toList.map (Directive.string "netcfg/get_domain") ++
    (if settings.forceHostname then [Directive.string "netcfg/hostname" name] else [])

/-- The lines that a hook writes. -/
def lines (settings : Settings) (client : Client) : Hook → List String
  | .preseed => (directives settings client).map Directive.text
  | _ => []

def shape : Record.Shape where
  expected := "struct NetcfgSettings"
  names := ["interface", "hostname", "force_hostname"]
  closed := true

def setField (s : Settings) (name : String) (v : Yaml.Value) : Except Record.Problem Settings := do
  match name with
  | "interface" => pure { s with interface := ← Record.text v }
  | "hostname" => pure { s with hostname := ← Record.optionalText v }
  | _ => pure { s with forceHostname := ← Record.Source.bool v }

def readSettings (v : Yaml.Value) : Except Record.Problem Settings :=
  Record.read shape {} setField v

def kind : String := "Netcfg"

/-- A plugin without state of its own. -/
def plugin {σ : Type} (state : σ) (settings : Settings) (client : Client) : Plugin σ where
  state
  call hook _ s := { state := s, lines := lines settings client hook }

def factory {σ : Type} (state : σ) : Factory σ where
  make init := do
    let settings ← init.read {} readSettings
    if (Blank.trim settings.interface.toList).isEmpty then
      throw (.settings init.name "interface must not be empty")
    pure (plugin state settings init.client)

end Preseed.Netcfg

import Preseed.Plugin.Definition
import Preseed.Plugin.Directives
import Preseed.Plugin.LdapDirectives
import Preseed.Plugin.Netcfg
import Preseed.Plugin.Registry

/-!
# Loading plugins

Every definition that can be read and names a registered kind becomes a plugin; any other is skipped. A
plugin that refuses its settings ends the loading.
-/

namespace Preseed

/-- A plugin with the name and the kind of its definition. -/
structure LoadedPlugin (σ : Type) where
  name : String
  kind : String
  plugin : Plugin σ

/-- What a loading did: the calls of factories in their order, and what came of them. -/
structure Loading (σ : Type) where
  calls : List (FactoryCall σ) := []
  result : Except PluginError (List (LoadedPlugin σ))

namespace Loading

variable {σ : Type}

def done : Loading σ :=
  { result := .ok [] }

def failed (e : PluginError) : Loading σ :=
  { result := .error e }

/-- Makes a call, and goes on with the plugin unless it is refused. -/
def make (call : FactoryCall σ) (next : Plugin σ → Loading σ) : Loading σ :=
  match call.result with
  | .error e => { calls := [call], result := .error e }
  | .ok plugin => { next plugin with calls := call :: (next plugin).calls }

/-- The loading with a plugin in front of the others. -/
def cons (loading : Loading σ) (plugin : LoadedPlugin σ) : Loading σ :=
  { loading with result := loading.result.map (plugin :: ·) }

/-- How often the calls closed the session. -/
def closes (loading : Loading σ) : Nat :=
  loading.calls.foldr (fun call n => call.closes + n) 0

end Loading

/-- Where definitions are looked for. -/
structure PluginSource where
  directory : String
  extension : String
  deriving DecidableEq, Repr

namespace PluginSource

variable {σ : Type}

def discover (s : PluginSource) (files : FileTree) (filter : Option String) :
    Except PluginError (List Descriptor) :=
  match Definition.discover files s.directory s.extension filter with
  | .ok found => .ok found
  | .error e => .error (.file e)

/-- The call of a factory for one definition with the kind that it names; none if there is nothing to call. -/
def call? (registry : Registry σ) (files : FileTree) (session : Session) (client : Client)
    (d : Descriptor) : Option (String × FactoryCall σ) :=
  match Definition.read files d.path with
  | .error _ => none
  | .ok definition => do
    let kind ← definition.kind
    let call ← registry.call? kind
      { name := d.name, settings := definition.settings, session, client }
    pure (kind, call)

def instantiateAll (registry : Registry σ) (files : FileTree) (session : Session) (client : Client) :
    List Descriptor → Loading σ
  | [] => .done
  | d :: ds =>
    match call? registry files session client d with
    | none => instantiateAll registry files session client ds
    | some (kind, call) =>
      Loading.make call fun plugin =>
        (instantiateAll registry files session client ds).cons { name := d.name, kind, plugin }

/-- The plugins for a client, in the order of their names. -/
def load (s : PluginSource) (registry : Registry σ) (files : FileTree) (filter : Option String)
    (session : Session) (client : Client) : Loading σ :=
  match s.discover files filter with
  | .error e => .failed e
  | .ok found => instantiateAll registry files session client found

end PluginSource

namespace Registry

/-- The kinds that are always there. -/
def builtin : Registry (List Entry) :=
  ((empty.register Directives.kind (Directives.factory [])).register Netcfg.kind
    (Netcfg.factory [])).register LdapDirectives.kind LdapDirectives.factory

end Registry

end Preseed

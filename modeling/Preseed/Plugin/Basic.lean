import Preseed.Client.Basic
import Preseed.Directory.Basic
import Preseed.Files.Basic
import Preseed.Output.Basic
import Preseed.Yaml.Value

/-!
# Plugins

A plugin is a machine that is called in the hooks of a run: each call may change its state, writes lines,
and may fail. Plugins share the session with the directory; they search in it, and nothing keeps them from
closing it.
-/

namespace Preseed

/-- The hooks in the order in which a run may call them. -/
inductive Hook where
  | setUp
  | preseed
  | scriptEarly
  | scriptLate
  | tearDown
  deriving DecidableEq, Repr

namespace Hook

protected def toString : Hook → String
  | setUp => "Initialize"
  | preseed => "Preseed"
  | scriptEarly => "ScriptEarly"
  | scriptLate => "ScriptLate"
  | tearDown => "Deinitialize"

def all : List Hook := [setUp, preseed, scriptEarly, scriptLate, tearDown]

/-- The hook of a script's phase. -/
def ofPhase : Phase → Hook
  | .early => scriptEarly
  | .late => scriptLate

end Hook

inductive PluginError where
  /-- The settings of a plugin were refused. -/
  | settings (plugin reason : String)
  /-- A hook failed. -/
  | hook (plugin : String) (hook : Hook) (source : PluginError)
  | execution (text : String)
  | directory (error : DirectoryError)
  | file (error : FileError)
  /-- A text is no document, or not the one that was expected, in the words of its reader. -/
  | yaml (text : String)
  deriving DecidableEq, Repr

namespace PluginError

def message : PluginError → String
  | settings plugin reason => "Invalid settings for plugin " ++ plugin ++ ": " ++ reason
  | hook plugin place source => plugin ++ "::" ++ place.toString ++ " failed: " ++ source.message
  | execution text => "Plugin execution error: " ++ text
  | directory cause => "Directory error: " ++ cause.message
  | file cause => "IO error: " ++ cause.message
  | yaml text => "YAML error: " ++ text

end PluginError

/-- What one call of a hook does. -/
structure Reply (σ : Type) where
  state : σ
  /-- The lines that the call adds to the output. -/
  lines : List String := []
  failure : Option PluginError := none
  /-- How often the call closes the session. -/
  closes : Nat := 0

/-- A plugin with states of type `σ`. A call may look at the output written before. -/
structure Plugin (σ : Type) where
  state : σ
  call : Hook → Output → σ → Reply σ

/-- What a plugin is made from. -/
structure PluginInit where
  name : String
  /-- The settings of its definition; null without any. -/
  settings : Yaml.Value
  session : Session
  client : Client

namespace PluginInit

/-- Reads the settings; null stands for the defaults. -/
def read {α : Type} (init : PluginInit) (default : α)
    (read : Yaml.Value → Except Record.Problem α) : Except PluginError α :=
  if init.settings.isNull then .ok default
  else
    match read init.settings with
    | .ok a => .ok a
    | .error problem => .error (.settings init.name problem.message)

end PluginInit

/-- Makes a plugin, or refuses its settings. -/
structure Factory (σ : Type) where
  make : PluginInit → Except PluginError (Plugin σ)
  /-- How often the session is closed while the plugin is made. -/
  closes : PluginInit → Nat := fun _ => 0

instance {σ : Type} : CoeFun (Factory σ) fun _ => PluginInit → Except PluginError (Plugin σ) where
  coe factory := factory.make

/-- A factory is called for a definition. -/
structure FactoryCall (σ : Type) where
  factory : Factory σ
  init : PluginInit

namespace FactoryCall

variable {σ : Type}

def result (call : FactoryCall σ) : Except PluginError (Plugin σ) :=
  call.factory call.init

def closes (call : FactoryCall σ) : Nat :=
  call.factory.closes call.init

end FactoryCall

end Preseed

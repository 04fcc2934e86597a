import Preseed.Files.Basic
import Preseed.Settings.Basic
import Preseed.Yaml.Field

/-!
# Reading settings

Settings are a record of records. From a text alone every field must have its own type.
-/

namespace Preseed

open Record

variable {ν φ : Type} [Source ν φ]

/-- A path of a file or a directory. -/
def readPath (v : ν) : Except φ String :=
  Source.text "path string" v

def readPort (v : ν) : Except φ Nat :=
  Source.unsigned 65536 "u16" v

def readSeconds (v : ν) : Except φ Nat :=
  Source.unsigned (Nat.pow 2 64) "u64" v

namespace AppSettings

def shape : Shape where
  expected := "struct ApplicationConfig"
  names := ["name", "environment"]

def setField (s : AppSettings) (name : String) (v : ν) : Except φ AppSettings := do
  match name with
  | "name" => pure { s with name := ← text v }
  | _ => pure { s with environment := ← text v }

end AppSettings

namespace ServerSettings

def shape : Shape where
  expected := "struct HttpConfig"
  names := ["host", "port", "public_url", "trust_forwarded_for"]

def setField (s : ServerSettings) (name : String) (v : ν) : Except φ ServerSettings := do
  match name with
  | "host" => pure { s with host := ← text v }
  | "port" => pure { s with port := ← readPort v }
  | "public_url" => pure { s with publicUrl := ← optionalText v }
  | _ => pure { s with trustForwardedFor := ← Source.bool v }

end ServerSettings

namespace LdapSettings

def shape : Shape where
  expected := "struct LdapConfig"
  names := ["url", "base_dn", "bind_dn", "bind_password", "starttls", "timeout_secs", "object_class",
    "member_attribute", "class_attribute"]

def setField (s : LdapSettings) (name : String) (v : ν) : Except φ LdapSettings := do
  match name with
  | "url" => pure { s with url := ← text v }
  | "base_dn" => pure { s with baseDn := ← text v }
  | "bind_dn" => pure { s with bindDn := ← optionalText v }
  | "bind_password" => pure { s with bindPassword := ← optionalText v }
  | "starttls" => pure { s with startTls := ← Source.bool v }
  | "timeout_secs" => pure { s with timeoutSeconds := ← readSeconds v }
  | "object_class" => pure { s with objectClass := ← text v }
  | "member_attribute" => pure { s with memberAttribute := ← text v }
  | _ => pure { s with classAttribute := ← text v }

end LdapSettings

namespace PluginSettings

def shape : Shape where
  expected := "struct PluginsConfig"
  names := ["directory", "extension"]

def setField (s : PluginSettings) (name : String) (v : ν) : Except φ PluginSettings := do
  match name with
  | "directory" => pure { s with directory := ← readPath v }
  | _ => pure { s with extension := ← text v }

end PluginSettings

namespace ResolverSettings

def shape : Shape where
  expected := "struct ResolverConfig"
  names := ["reverse_dns", "arp", "proc_arp_path", "arp_command", "arp_timeout_secs"]

def setField (s : ResolverSettings) (name : String) (v : ν) : Except φ ResolverSettings := do
  match name with
  | "reverse_dns" => pure { s with reverseDns := ← Source.bool v }
  | "arp" => pure { s with arp := ← Source.bool v }
  | "proc_arp_path" => pure { s with arpTable := ← readPath v }
  | "arp_command" => pure { s with arpCommand := ← readPath v }
  | _ => pure { s with arpTimeoutSeconds := ← readSeconds v }

end ResolverSettings

namespace LogFormat

def read (v : ν) : Except φ LogFormat := do
  let name ← Source.variant ["text", "json"] v
  pure (if name = "json" then .json else .text)

end LogFormat

namespace LoggingSettings

def shape : Shape where
  expected := "struct LoggingConfig"
  names := ["level", "format"]

def setField (s : LoggingSettings) (name : String) (v : ν) : Except φ LoggingSettings := do
  match name with
  | "level" => pure { s with level := ← text v }
  | _ => pure { s with format := ← LogFormat.read v }

end LoggingSettings

namespace Settings

def shape : Shape where
  expected := "struct AppConfig"
  names := ["app", "server", "ldap", "plugins", "resolver", "logging"]

def setField (s : Settings) (name : String) (v : ν) : Except φ Settings := do
  match name with
  | "app" => pure { s with app := ← Record.read AppSettings.shape {} AppSettings.setField v }
  | "server" =>
    pure { s with server := ← Record.read ServerSettings.shape {} ServerSettings.setField v }
  | "ldap" => pure { s with ldap := ← Record.read LdapSettings.shape {} LdapSettings.setField v }
  | "plugins" =>
    pure { s with plugins := ← Record.read PluginSettings.shape {} PluginSettings.setField v }
  | "resolver" =>
    pure { s with resolver := ← Record.read ResolverSettings.shape {} ResolverSettings.setField v }
  | _ =>
    pure { s with logging := ← Record.read LoggingSettings.shape {} LoggingSettings.setField v }

def read (v : ν) : Except φ Settings :=
  Record.read shape {} setField v

/-- Why a text holds no settings: it is malformed, or its data are no settings. -/
inductive TextError where
  | malformed
  | data (problem : Yaml.Located)
  deriving DecidableEq, Repr

def TextError.toError : TextError → SettingsError
  | .malformed => .invalidFormat "malformed document"
  | .data problem => .invalidFormat problem.message

/-- The settings that a text holds. -/
def ofText (source : String) : Except TextError Settings :=
  match Yaml.Document.ofText? source with
  | none => .error .malformed
  | some d =>
    match read (Yaml.Field.ofDocument d) with
    | .ok s => .ok s
    | .error problem => .error (.data problem)

/-- The text of a settings' file. -/
def sourceText (files : FileTree) (path : String) : Except SettingsError String :=
  match files.read path with
  | .ok source => .ok source
  | .error e => .error (.loadFailed path e.message)

end Settings

end Preseed

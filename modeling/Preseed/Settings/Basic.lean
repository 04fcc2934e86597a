import Preseed.Directory.Classes
import Preseed.Net.Url.Parser
import Preseed.Text.Quoted

/-!
# Settings

The settings of the service with their defaults, what is wrong with settings, and the check of a whole.
-/

namespace Preseed

structure AppSettings where
  name : String := "netpreseed"
  environment : String := "production"
  deriving DecidableEq, Repr, Inhabited

structure ServerSettings where
  host : String := "0.0.0.0"
  port : Nat := 8080
  /-- The URL that installers call back; the request's own host and path without one. -/
  publicUrl : Option String := none
  /-- Whether a proxy's word on the client's address counts. -/
  trustForwardedFor : Bool := false
  deriving DecidableEq, Repr, Inhabited

structure LdapSettings where
  url : String := "ldap://localhost:389"
  baseDn : String := "dc=example,dc=org"
  bindDn : Option String := none
  bindPassword : Option String := none
  startTls : Bool := false
  timeoutSeconds : Nat := 10
  objectClass : String := "preseedObject"
  memberAttribute : String := "preseedValue"
  classAttribute : String := "cn"
  deriving DecidableEq, Repr, Inhabited

structure PluginSettings where
  directory : String := "/etc/netpreseed/plugins"
  extension : String := "yaml"
  deriving DecidableEq, Repr, Inhabited

structure ResolverSettings where
  reverseDns : Bool := true
  arp : Bool := true
  /-- The kernel's table of neighbours. -/
  arpTable : String := "/proc/net/arp"
  /-- What is asked for an address that the table does not hold. -/
  arpCommand : String := "/usr/sbin/arp"
  arpTimeoutSeconds : Nat := 20
  deriving DecidableEq, Repr, Inhabited

inductive LogFormat where
  | text
  | json
  deriving DecidableEq, Repr, Inhabited

namespace LogFormat

protected def toString : LogFormat → String
  | text => "text"
  | json => "json"

end LogFormat

structure LoggingSettings where
  level : String := "info"
  format : LogFormat := .text
  deriving DecidableEq, Repr, Inhabited

structure Settings where
  app : AppSettings := {}
  server : ServerSettings := {}
  ldap : LdapSettings := {}
  plugins : PluginSettings := {}
  resolver : ResolverSettings := {}
  logging : LoggingSettings := {}
  deriving DecidableEq, Repr, Inhabited

inductive SettingsError where
  /-- The settings' file could not be read. -/
  | loadFailed (path reason : String)
  /-- The settings do not have the form of settings. -/
  | invalidFormat (reason : String)
  /-- A setting has a value that makes no sense. -/
  | invalidValue (field reason : String)
  deriving DecidableEq, Repr

namespace SettingsError

def message : SettingsError → String
  | loadFailed path reason => "Failed to load configuration from " ++ path ++ ": " ++ reason
  | invalidFormat reason => "Invalid configuration format: " ++ reason
  | invalidValue field reason => "Invalid configuration value for '" ++ field ++ "': " ++ reason

/-- The message as an error of the program. -/
def report (e : SettingsError) : String :=
  "Configuration error: " ++ e.message

/-- The message as an error of the program, and the cause behind it. -/
def chain (e : SettingsError) : String :=
  e.report ++ ": " ++ e.message

/-- The failure of a check at the start of the program, with all causes. -/
def checkReport (e : SettingsError) : String :=
  "Invalid configuration: " ++ e.chain

end SettingsError

namespace ServerSettings

/-- Where the service listens. -/
def bindAddress (s : ServerSettings) : String :=
  s.host ++ ":" ++ toString s.port

def check (s : ServerSettings) : Except SettingsError Unit := do
  if s.port = 0 then throw (.invalidValue "server.port" "Port cannot be 0")
  match s.publicUrl.map Url.parse with
  | some (.error e) => throw (.invalidValue "server.public_url" e.message)
  | _ => pure ()

end ServerSettings

namespace LdapSettings

def check (s : LdapSettings) : Except SettingsError Unit := do
  if s.url.isEmpty then throw (.invalidValue "ldap.url" "URL cannot be empty")
  if s.baseDn.isEmpty then throw (.invalidValue "ldap.base_dn" "Base DN cannot be empty")
  if s.bindPassword.isSome && s.bindDn.isNone then
    throw (.invalidValue "ldap.bind_password" "A bind password requires ldap.bind_dn")
  if s.timeoutSeconds = 0 then throw (.invalidValue "ldap.timeout_secs" "Timeout cannot be 0")

/-- How classes are looked up. -/
def lookup (s : LdapSettings) : ClassLookup :=
  { baseDn := s.baseDn, objectClass := s.objectClass, memberAttribute := s.memberAttribute
    classAttribute := s.classAttribute }

end LdapSettings

namespace PluginSettings

def check (s : PluginSettings) : Except SettingsError Unit := do
  if s.extension.isEmpty || s.extension.toList.contains '.' then
    throw (.invalidValue "plugins.extension" ("Invalid extension: " ++ Quoted.encode s.extension))

end PluginSettings

namespace ResolverSettings

def check (s : ResolverSettings) : Except SettingsError Unit := do
  if s.arpTimeoutSeconds = 0 then
    throw (.invalidValue "resolver.arp_timeout_secs" "Timeout cannot be 0")

end ResolverSettings

/-- How much is logged. -/
inductive LogLevel where
  | error
  | warn
  | info
  | debug
  | trace
  deriving DecidableEq, Repr

namespace LogLevel

def all : List LogLevel := [error, warn, info, debug, trace]

protected def toString : LogLevel → String
  | error => "ERROR"
  | warn => "WARN"
  | info => "INFO"
  | debug => "DEBUG"
  | trace => "TRACE"

/-- The number that a level may be given by. -/
def number? (cs : List Char) : Option Nat :=
  let digits := if cs.head? == some '+' then cs.tail else cs
  if digits.isEmpty then none else Ascii.number? 10 digits

/-- A level by its number from one, or by its name in any case. -/
def ofString? (s : String) : Option LogLevel :=
  match (number? s.toList).bind fun n => if n = 0 then none else all[n - 1]? with
  | some level => some level
  | none => all.find? fun level => Ascii.eqIgnoreCase level.toString s

end LogLevel

namespace LoggingSettings

def level? (s : LoggingSettings) : Except SettingsError LogLevel :=
  match LogLevel.ofString? s.level with
  | some level => .ok level
  | none => .error (.invalidValue "logging.level" ("Invalid log level: " ++ s.level))

end LoggingSettings

namespace Settings

/-- The first setting that makes no sense, section by section. -/
def check (s : Settings) : Except SettingsError Unit := do
  s.server.check
  s.ldap.check
  s.plugins.check
  s.resolver.check
  let _ ← s.logging.level?

end Settings

end Preseed

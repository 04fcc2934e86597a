import Preseed.Cli.Options
import Preseed.Program

/-!
# Help

The texts that the command line prints about itself.
-/

namespace Preseed.Cli

def defaultConfig : String := "config/config.yaml"

def defaultIp : String := "127.0.0.1"

def defaultBaseUrl : String := "http://localhost:8080/preseed"

namespace Switch

/-- What the help says about an option. -/
def about : Switch → String
  | config => "Path to configuration file"
  | ip => "Client address to render for"
  | query => "Query string as the installer would send it, e.g. \"class=web&script=late\""
  | name => "Reverse DNS name to assume instead of a lookup"
  | hardwareAddress => "Hardware address to assume instead of an ARP lookup"
  | baseUrl => "URL the early/late commands call back"
  | offline => "Skip the directory service; clients only get request classes"
  | logLevel => "Override log level"
  | .help => "Print help"
  | version => "Print version"

def default? : Switch → Option String
  | config => some defaultConfig
  | ip => some defaultIp
  | query => some ""
  | baseUrl => some defaultBaseUrl
  | _ => none

/-- The option with its value's name. -/
def usage (s : Switch) : String :=
  "--" ++ s.long ++
    (match s.value? with
      | some value => " <" ++ value ++ ">"
      | none => "")

/-- The width of the longest option. -/
def usageWidth : Nat :=
  (all.map fun s => s.usage.length).foldl max 0

def usageColumn (s : Switch) : String :=
  (match s.short? with
    | some c => "  -" ++ String.singleton c ++ ", "
    | none => "      ") ++
    s.usage ++ String.ofList (List.replicate (usageWidth - s.usage.length) ' ')

/-- The line about an option; `setting` is what the environment says about the settings' file. -/
def helpLine (setting : String) (s : Switch) : String :=
  s.usageColumn ++ "  " ++ s.about ++
    (if s = config then " [env: " ++ configVariable ++ "=" ++ setting ++ "]" else "") ++
    (match s.default? with
      | some value => " [default: " ++ value ++ "]"
      | none => "") ++ "\n"

end Switch

def helpText (environment : List (String × String)) : String :=
  let setting := (lookupVariable environment configVariable).getD ""
  "Render a preseed file or installer script for one client\n\n" ++
    "Usage: " ++ Program.name ++ "-render [OPTIONS]\n\nOptions:\n" ++
    String.join (Switch.all.map (Switch.helpLine setting))

def versionText : String :=
  Program.name ++ " " ++ Program.version ++ "\n"

end Preseed.Cli

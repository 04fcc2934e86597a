import Preseed.Cli.Help
import Preseed.Directory.Ldap
import Preseed.Service.Basic
import Preseed.Settings.Load

/-!
# Rendering one answer

The command line answers one request as the service would and prints the answer.
-/

namespace Preseed.Cli

/-- What a run of the program finds on its machine. -/
structure Host where
  files : FileTree := {}
  environment : List (String × String) := []
  /-- How settings in YAML are read. -/
  yaml : String → Option Yaml.Document
  /-- The name service. -/
  lookUp : Net.Address → Option String
  /-- What a command writes that is run with arguments, if it ends within some seconds. -/
  command : String → List String → Nat → Option Bytes
  ldap : LdapServer

/-- What a run of the program leaves. -/
structure Outcome where
  exitCode : Nat
  stdout : String := ""
  stderr : String := ""
  deriving DecidableEq, Repr

namespace Options

def configPath (o : Options) : String :=
  o.config.getD defaultConfig

def clientIp (o : Options) : Net.Address :=
  o.ip.getD (.v4 ⟨127, 0, 0, 1⟩)

/-- The query without question marks in front. -/
def bareQuery (o : Options) : String :=
  String.ofList ((o.query.getD "").toList.dropWhile (· == '?'))

/-- The URL that scripts are fetched from; without an option that of a service on the same host. -/
def callbackUrl (o : Options) : Url :=
  o.baseUrl.getD
    { scheme := "http", host := some (.name "localhost"), port := some 8080
      path := .segments ["preseed"] }

def settings (o : Options) (host : Host) : Except SettingsError Settings :=
  Settings.load host.yaml host.files host.environment o.configPath { logLevel := o.logLevel }

/-- The facts that the options give; with none of them those that the host finds out. -/
def resolver (o : Options) (host : Host) (s : Settings) : Resolver :=
  let known (fact : Option String) := (fact.map fun text => (o.clientIp, text)).toList
  if o.name.isSome || o.hardwareAddress.isSome then
    .ofAnswers (known o.name) (known o.hardwareAddress)
  else .ofHost s.resolver host.files host.lookUp host.command

/-- The files that settings may be read from. -/
def settingsPaths (o : Options) : List String :=
  o.configPath :: (Layer.candidates o.configPath).map Prod.fst

def directory (o : Options) (host : Host) (s : Settings) : Directory :=
  if o.offline then {} else .ofServer host.ldap s.ldap

def service (o : Options) (host : Host) (s : Settings) : Service (List Entry) :=
  { settings := s, registry := .builtin, resolver := o.resolver host s, files := host.files
    directory := o.directory host s }

def request (o : Options) : Request :=
  { ip := o.clientIp, query := o.bareQuery, baseUrl := o.callbackUrl }

end Options

/-- The answer as the program leaves it. -/
def Outcome.ofAnswer : Except ServiceError Answer → Outcome
  | .ok answer => { exitCode := 0, stdout := answer.body }
  | .error e => { exitCode := 1, stdout := e.body }

/-- A run with valid options. -/
def render (host : Host) (o : Options) : Outcome :=
  match o.settings host with
  | .error e => { exitCode := 1, stderr := "Error: " ++ e.chain ++ "\n" }
  | .ok s => .ofAnswer ((o.service host s).handle o.request).2

/-- A run that ends before there are options. -/
def Outcome.ofStop (environment : List (String × String)) : Stop → Outcome
  | .help => { exitCode := 0, stdout := helpText environment }
  | .version => { exitCode := 0, stdout := versionText }
  | .usage e => { exitCode := 2, stderr := "error: " ++ e.toString ++ "\n" }

/-- A run of the program. -/
def run (host : Host) (arguments : List String) : Outcome :=
  match Options.ofArguments arguments host.environment with
  | .ok o => render host o
  | .error stop => .ofStop host.environment stop

end Preseed.Cli

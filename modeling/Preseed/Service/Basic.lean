import Preseed.Lifecycle
import Preseed.Service.Error
import Preseed.Service.InfoPage
import Preseed.Service.Resolver

/-!
# The service

One request is answered by the info page, or by a run of the plugins for the client with its classes from
the directory. A session with the directory is closed however the request ends.
-/

namespace Preseed

/-- What answers depend on besides the request. -/
structure Service (σ : Type) where
  settings : Settings
  registry : Registry σ
  resolver : Resolver
  files : FileTree
  directory : Directory

/-- A request for a preseed file, a script or the info page. -/
structure Request where
  ip : Net.Address
  /-- The query without its question mark. -/
  query : String
  /-- The URL that scripts are fetched from. -/
  baseUrl : Url
  /-- The headers that the info page shows. -/
  headers : List (String × String) := []

inductive ContentType where
  | plain
  | html
  deriving DecidableEq, Repr

protected def ContentType.toString : ContentType → String
  | plain => "text/plain; charset=utf-8"
  | html => "text/html; charset=utf-8"

structure Answer where
  contentType : ContentType
  body : String
  deriving DecidableEq, Repr

/-- What came of a request within an open session, and how often plugins closed the session. -/
structure Rendering where
  result : Except ServiceError Answer
  closes : Nat := 0

namespace Service

variable {σ : Type}

def pluginSource (s : Service σ) : PluginSource :=
  { directory := s.settings.plugins.directory, extension := s.settings.plugins.extension }

/-- What is known of a client before the directory is asked. -/
def builder (s : Service σ) (ip : Net.Address) (params : Params) : Client.Builder :=
  (((Client.builder ip).withReverseName (s.resolver.reverseName ip)).withHardwareAddress
    (s.resolver.hardwareAddress ip)).applyParams params

/-- The client with its classes from the directory. -/
def client (s : Service σ) (session : Session) (b : Client.Builder) :
    Except ServiceError Client :=
  match s.settings.ldap.lookup.classes session b.lookupName with
  | .ok classes => .ok (b.extendClasses classes).build
  | .error e => .error (.directory e)

/-- Runs the plugins for a client. -/
def run (s : Service σ) (session : Session) (c : Client) (params : Params) (baseUrl : Url) :
    Rendering :=
  let loading := s.pluginSource.load s.registry s.files params.plugin session c
  match loading.result with
  | .error e => { result := .error (.plugin e), closes := loading.closes }
  | .ok plugins =>
    let lifecycle : Lifecycle :=
      { mode := params.mode, client := c, link := .ofUrl baseUrl, pluginFilter := params.plugin }
    let r := lifecycle.run plugins {}
    { result :=
        match r.failure with
        | some e => .error (.plugin e)
        | none => .ok { contentType := .plain, body := r.output.render }
      closes := loading.closes + r.closes }

/-- The answer within an open session. -/
def render (s : Service σ) (session : Session) (b : Client.Builder) (params : Params)
    (baseUrl : Url) : Rendering :=
  match s.client session b with
  | .error e => { result := .error e }
  | .ok c => s.run session c params baseUrl

def infoPage (s : Service σ) (c : Client) (params : Params) (headers : List (String × String)) :
    Except ServiceError Answer :=
  match s.pluginSource.discover s.files params.plugin with
  | .error e => .error (.plugin e)
  | .ok plugins =>
    let page : InfoPage := { client := c, params, plugins, kinds := s.registry.kinds, headers }
    .ok { contentType := .html, body := page.render }

/-- Answers a request. A session that was opened for it is closed at the end, whatever plugins did to it;
the service that is left has counted every time. -/
def handle (s : Service σ) (r : Request) : Service σ × Except ServiceError Answer :=
  let params := Params.parse r.query
  let b := s.builder r.ip params
  if params.info then (s, s.infoPage b.build params r.headers)
  else
    match s.directory.connect with
    | .error e => (s, .error (.directory e))
    | .ok session =>
      let rendering := s.render session b params r.baseUrl
      ({ s with directory := s.directory.close (rendering.closes + 1) }, rendering.result)

end Service

end Preseed

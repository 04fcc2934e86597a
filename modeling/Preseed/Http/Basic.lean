import Preseed.Http.Headers
import Preseed.Http.Target
import Preseed.Net.Url.Parser
import Preseed.Service.Basic

/-!
# The service over HTTP

Which requests are answered by what. Every request has an id, its own or a fresh one, which the answer
repeats.
-/

namespace Preseed.Http

structure Request where
  method : String := "GET"
  target : Target
  headers : Headers
  /-- Where the request comes from. -/
  peer : Net.Endpoint

structure Response where
  status : Nat
  contentType : Option String := none
  /-- The methods that a path has, if the request had another. -/
  allow : Option String := none
  requestId : Bytes
  body : String := ""

/-! ## What the service is asked -/

/-- The address that a proxy gives: the first entry of its list. -/
def forwardedFor? (headers : Headers) : Option Net.Address :=
  (headers.text? "x-forwarded-for").bind fun list =>
    Net.Address.ofString? (String.ofList (Blank.trim (Split.cut ',' list.toList).1))

/-- The client's address: the peer, or whom a trusted proxy speaks for. -/
def clientIp (trustForwardedFor : Bool) (headers : Headers) (peer : Net.Endpoint) : Net.Address :=
  let forwarded := if trustForwardedFor then forwardedFor? headers else none
  (forwarded.getD peer.address).canonical

/-- The URL that scripts are fetched from: the configured one, or the request's own host and path. -/
def baseUrl (publicUrl : Option String) (headers : Headers) (path : String) :
    Except ServiceError Url :=
  match publicUrl with
  | some text =>
    match Url.parse text with
    | .ok u => .ok u
    | .error e => .error (.badRequest ("invalid public_url: " ++ e.message))
  | none =>
    match headers.text? "host" with
    | none => .error (.badRequest "missing Host header")
    | some host =>
      match Url.parse ("http://" ++ host ++ path) with
      | .ok u => .ok u
      | .error e => .error (.badRequest ("invalid Host header: " ++ e.message))

/-! ## Routes -/

inductive Route where
  | preseed
  | health
  deriving DecidableEq, Repr

namespace Route

def ofPath? (path : String) : Option Route :=
  if path ∈ ["/", "/preseed", "/preseed.cfg"] then some preseed
  else if path = "/health" then some health
  else none

end Route

/-- The answer to a failed or a successful request. -/
def respond (id : Bytes) : Except ServiceError Answer → Response
  | .ok answer =>
    { status := 200, contentType := some answer.contentType.toString, requestId := id
      body := answer.body }
  | .error e =>
    { status := e.status, contentType := some ContentType.plain.toString, requestId := id
      body := e.body }

variable {σ : Type}

def preseed (s : Service σ) (id : Bytes) (r : Request) : Service σ × Response :=
  let server := s.settings.server
  match baseUrl server.publicUrl r.headers r.target.path with
  | .error e => (s, respond id (.error e))
  | .ok u =>
    let (s, result) := s.handle
      { ip := clientIp server.trustForwardedFor r.headers r.peer
        query := r.target.query.getD ""
        baseUrl := u
        headers := r.headers.toList }
    (s, respond id result)

/-- Says that the service is there; `now` is the present time. -/
def health (now : String) (id : Bytes) : Response where
  status := 200
  contentType := some "application/json"
  requestId := id
  body := "\x7b\"status\":\"healthy\",\"timestamp\":\"" ++ now ++ "\",\"version\":\"" ++
    Program.version ++ "\"\x7d"

def requestIdName : String := "x-request-id"

/-- What a request is answered with that has neither an id nor the time of its own. -/
structure Circumstances where
  now : String
  freshId : Bytes

/-- Gives the request an id, its first one or a fresh one. -/
def identify (c : Circumstances) (r : Request) : Request × Bytes :=
  let id := (r.headers.first? requestIdName).getD c.freshId
  ({ r with headers := r.headers.set requestIdName id }, id)

/-- The answer of a route. -/
def get (s : Service σ) (c : Circumstances) (id : Bytes) (r : Request) :
    Route → Service σ × Response
  | .preseed => preseed s id r
  | .health => (s, health c.now id)

/-- Answers a request: what is asked for by `HEAD` is answered without a body. -/
def handle (s : Service σ) (c : Circumstances) (r : Request) : Service σ × Response :=
  let (r, id) := identify c r
  match Route.ofPath? r.target.path with
  | none => (s, { status := 404, requestId := id })
  | some route =>
    if r.method = "GET" then get s c id r route
    else if r.method = "HEAD" then
      let (s, response) := get s c id r route
      (s, { response with body := "" })
    else (s, { status := 405, allow := some "GET,HEAD", requestId := id })

end Preseed.Http

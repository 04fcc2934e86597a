import Mathlib.Data.List.TakeWhile
import Preseed.Cli.Render
import Preseed.Proofs.Http.Headers
import Preseed.Proofs.Record.Fields
import Preseed.Proofs.Text.Split

/-! # Rehearsed requests

The command line shows beforehand what an installer will be answered over HTTP. Both go through the same
service, but each prepares the request by itself: over HTTP a version 4 address that is mapped into
version 6 stands for the version 4 address, and on the command line it stands for itself. -/

namespace Preseed

/-! ## Requests over HTTP -/

theorem Target.ofString_query (path : String) {query : String} (hstart : path.toList.head? = some '/')
    (hpath : '?' ∉ path.toList) (hfragment : '#' ∉ path.toList) (hquery : '#' ∉ query.toList) :
    Target.ofString (path ++ "?" ++ query) = { path, query := some query } := by
  have hchars : (path ++ "?" ++ query).toList = path.toList ++ '?' :: query.toList := by
    simp
  have hhead : (path.toList ++ '?' :: query.toList).head? = some '/' := by
    rw [List.head?_append, hstart, Option.some_or]
  have hmark : '#' ∉ path.toList ++ '?' :: query.toList := by
    simp [hfragment, hquery]
  have hne : path.toList.isEmpty = false := by
    cases h : path.toList with
    | nil => simp [h] at hstart
    | cons c cs => rfl
  rw [ofString, hchars]
  simp only [hhead, decide_true, Bool.true_or, if_true, ofPathAndQuery,
    Split.cut_eq_self hmark, Split.cut?_append query.toList hpath, hne, Bool.false_eq_true, if_false,
    String.ofList_toList]

namespace Http

variable {σ : Type}

theorem preseed_snd {s : Service σ} {text : String} {u : Url}
    (hpublic : s.settings.server.publicUrl = some text) (hurl : Url.parse text = .ok u) (id : Bytes)
    (r : Request) :
    (preseed s id r).2 = respond id (s.handle
      { ip := clientIp s.settings.server.trustForwardedFor r.headers r.peer
        query := r.target.query.getD "", baseUrl := u, headers := r.headers.toList }).2 := by
  unfold preseed baseUrl
  simp only [hpublic, hurl]

end Http

/-! ## Settings -/

theorem Settings.check_of_load {yaml : String → Option Yaml.Document} {files : FileTree}
    {environment : List (String × String)} {path : String} {overrides : Overrides} {s : Settings}
    (h : load yaml files environment path overrides = .ok s) : s.check = .ok () := by
  obtain ⟨file, -, h⟩ := exists_of_bind_eq_ok h
  obtain ⟨raw, -, h⟩ := exists_of_bind_eq_ok h
  obtain ⟨u, hcheck, h⟩ := exists_of_bind_eq_ok h
  cases h
  exact hcheck

theorem ServerSettings.check_eq_ok_iff (s : ServerSettings) :
    s.check = .ok () ↔
      s.port ≠ 0 ∧ ∀ text, s.publicUrl = some text → ∃ u, Url.parse text = .ok u := by
  unfold check
  by_cases hport : s.port = 0
  · simp only [hport, if_true]
    exact iff_of_false (by rintro ⟨⟩) (fun h => h.1 rfl)
  · simp only [hport, if_false, not_false_eq_true, true_and, ne_eq]
    cases hpublic : s.publicUrl with
    | none => exact iff_of_true rfl (by rintro text ⟨⟩)
    | some text =>
      cases hurl : Url.parse text with
      | ok u =>
          refine iff_of_true (by simp only [Option.map_some, hurl]; rfl) ?_
          rintro _ ⟨⟩
          exact ⟨u, hurl⟩
      | error e =>
          refine iff_of_false (by simp only [Option.map_some, hurl]; rintro ⟨⟩) fun h => ?_
          obtain ⟨u, hu⟩ := h text rfl
          exact absurd (hurl.symm.trans hu) (by rintro ⟨⟩)

/-- The settings of a service that trusts no proxy and is called back at the URL of this text. -/
def Settings.calledBackAt (s : Settings) (text : String) : Settings :=
  { s with server := { s.server with publicUrl := some text, trustForwardedFor := false } }

theorem Settings.check_calledBackAt {s : Settings} {text : String} {u : Url} (h : s.check = .ok ())
    (hurl : Url.parse text = .ok u) : (s.calledBackAt text).check = .ok () := by
  obtain ⟨_, hserver, hrest⟩ := exists_of_bind_eq_ok h
  have hserver : (s.calledBackAt text).server.check = .ok () := by
    rw [ServerSettings.check_eq_ok_iff] at hserver ⊢
    refine ⟨hserver.1, ?_⟩
    rintro _ ⟨⟩
    exact ⟨u, hurl⟩
  rw [check, hserver]
  exact hrest

namespace Cli

/-! ## What is printed -/

/-- A run prints what a response says, and succeeds if the response does. -/
def Outcome.Shows (o : Outcome) (r : Http.Response) : Prop :=
  o.stdout = r.body ∧ (o.exitCode = 0 ↔ r.status = 200)

theorem Outcome.shows_respond (id : Bytes) (result : Except ServiceError Answer) :
    (ofAnswer result).Shows (Http.respond id result) := by
  cases result with
  | ok answer => exact ⟨rfl, iff_of_true rfl rfl⟩
  | error e =>
      have hstatus : e.status ≠ 200 := by cases e <;> simp [ServiceError.status]
      exact ⟨rfl, iff_of_false Nat.one_ne_zero hstatus⟩

/-! ## Rehearsals -/

/-- A run of the command line without a directory, and the service that it is a rehearsal for: the same
settings except for where to call back, the same files, an empty directory, a resolver that says of the
client's address what the command line or the host says, and an installer that sends the same query. -/
structure Rehearsal where
  host : Host
  arguments : List String
  options : Options
  settings : Settings
  query : String
  /-- The text of the URL to call back at. -/
  publicUrl : String
  resolver : Resolver
  headers : Headers
  peer : Net.Endpoint
  circumstances : Http.Circumstances
  ofArguments_eq : Options.ofArguments arguments host.environment = .ok options
  offline_eq : options.offline = true
  settings_eq : options.settings host = .ok settings
  query_eq : options.query.getD "" = query
  query_head : query.toList.head? ≠ some '?'
  query_fragment : '#' ∉ query.toList
  query_info : (Params.parse query).info = false
  publicUrl_eq : Url.parse publicUrl = .ok options.callbackUrl
  reverseName_eq : resolver.reverseName options.clientIp =
    (options.resolver host settings).reverseName options.clientIp
  hardwareAddress_eq : resolver.hardwareAddress options.clientIp =
    (options.resolver host settings).hardwareAddress options.clientIp

namespace Rehearsal

/-- What the run of the command line leaves. -/
def outcome (c : Rehearsal) : Outcome :=
  run c.host c.arguments

/-- The service that the installer asks. -/
def server (c : Rehearsal) : Service (List Entry) :=
  { settings := c.settings.calledBackAt c.publicUrl, registry := .builtin, resolver := c.resolver
    files := c.host.files, directory := {} }

/-- What the installer is answered. -/
def response (c : Rehearsal) : Http.Response :=
  (Http.handle c.server c.circumstances
    { target := .ofString ("/preseed?" ++ c.query), headers := c.headers, peer := c.peer }).2

theorem outcome_eq (c : Rehearsal) :
    c.outcome =
      .ofAnswer ((c.options.service c.host c.settings).handle c.options.request).2 := by
  rw [outcome, run, c.ofArguments_eq]
  dsimp only
  rw [render, c.settings_eq]

/-- The request as the service gets it over HTTP: the peer is a version 4 address if it is one that is
mapped into version 6. -/
def request (c : Rehearsal) (headers : List (String × String)) : Request :=
  { ip := c.peer.address.canonical, query := c.query, baseUrl := c.options.callbackUrl, headers }

theorem response_eq (c : Rehearsal) : ∃ id headers,
    c.response = Http.respond id (c.server.handle (c.request headers)).2 := by
  have htarget : Target.ofString ("/preseed?" ++ c.query) =
      { path := "/preseed", query := some c.query } :=
    Target.ofString_query "/preseed" (by decide) (by decide) (by decide) c.query_fragment
  have hroute : Http.Route.ofPath? "/preseed" = some .preseed := by decide
  rw [response, htarget, Http.handle_of_get c.server c.circumstances rfl hroute]
  exact ⟨_, _, Http.preseed_snd rfl c.publicUrl_eq _ _⟩

theorem bareQuery_eq (c : Rehearsal) : c.options.bareQuery = c.query := by
  have hdrop : c.query.toList.dropWhile (· == '?') = c.query.toList := by
    rw [List.dropWhile_eq_self_iff]
    intro hlength hmark
    apply c.query_head
    rw [List.head?_eq_getElem?, List.getElem?_eq_getElem hlength, eq_of_beq hmark]
  rw [Options.bareQuery, c.query_eq, hdrop, String.ofList_toList]

/-- Whichever way the request comes, it is answered the same, if the address that was rehearsed is the
one that the service sees. -/
theorem handle_eq (c : Rehearsal) (hpeer : c.peer.address.canonical = c.options.clientIp)
    (headers : List (String × String)) :
    (c.server.handle (c.request headers)).2 =
      ((c.options.service c.host c.settings).handle c.options.request).2 := by
  have hdirectory : c.options.directory c.host c.settings = {} := by
    rw [Options.directory, c.offline_eq, if_pos rfl]
  have hconnect : c.server.directory.connect = (c.options.directory c.host c.settings).connect := by
    rw [hdirectory, server]
  have hinfo : (Params.parse c.options.bareQuery).info ≠ true := by
    rw [c.bareQuery_eq, c.query_info]
    exact Bool.false_ne_true
  exact Service.handle_congr rfl rfl rfl rfl hconnect c.reverseName_eq c.hardwareAddress_eq hpeer
    c.bareQuery_eq.symm rfl fun h => absurd h hinfo

/-- An installer is answered over HTTP as the command line prints it for the installer's address; an
address that is mapped into version 6 is to be rehearsed as the version 4 address. The service starts with
its settings if the command line does. -/
theorem shows_response (c : Rehearsal) (hpeer : c.peer.address.canonical = c.options.clientIp) :
    c.server.settings.check = .ok () ∧ c.outcome.Shows c.response := by
  obtain ⟨id, headers, hresponse⟩ := c.response_eq
  have hchecked : c.settings.check = .ok () := Settings.check_of_load c.settings_eq
  refine ⟨Settings.check_calledBackAt hchecked c.publicUrl_eq, ?_⟩
  rw [hresponse, c.handle_eq hpeer, c.outcome_eq]
  exact Outcome.shows_respond id _

/-! ## An address mapped into version 6 -/

/-- `http://[2001:db8::1]/preseed`. -/
def callback : Url :=
  { scheme := "http", host := some (.v6 ⟨[0x2001, 0xdb8, 0, 0, 0, 0, 0, 1], rfl⟩)
    path := .segments ["preseed"] }

/-- A command line that rehearses the unknown script `0` for one address. -/
def lineFor (ip : String) : List String :=
  ["--offline", "--ip", ip, "--name", "n5", "--query", "script=0",
    "--base-url", "http://[2001:db8::1]/preseed"]

def optionsFor (ip : Net.Address) : Options :=
  { ip := some ip, query := some "script=0", name := some "n5", baseUrl := some callback
    offline := true }

/-- `::ffff:10.0.0.5`. -/
def mappedIp : Net.Address :=
  .v6 ⟨[0, 0, 0, 0, 0, 0xffff, 0x0a00, 0x0005], rfl⟩

/-- A host without files, whose name service knows one client by another name. -/
def bareHost : Host where
  yaml := Yaml.Document.ofText?
  lookUp ip := if ip = .v4 ⟨10, 0, 0, 5⟩ then some "n5.lab.example." else none
  command _ _ _ := none
  ldap := { connect := fun _ => .ok (), bind := fun _ _ => .ok (), directory := {} }

/-- The rehearsal with that command line and no settings, for an installer whose version 4 address
`10.0.0.5` the service sees mapped into version 6. -/
def ofIp (ip : String) (address : Net.Address)
    (h : (Options.ofArguments (lineFor ip) []).toOption = some (optionsFor address)) : Rehearsal where
  host := bareHost
  arguments := lineFor ip
  options := optionsFor address
  settings := {}
  query := "script=0"
  publicUrl := "http://[2001:db8::1]/preseed"
  resolver := { reverseName := fun _ => some "n5", hardwareAddress := fun _ => none }
  headers := []
  peer := { address := mappedIp, port := 40000 }
  circumstances := { now := "", freshId := [] }
  ofArguments_eq := eq_ok_of_toOption h
  offline_eq := rfl
  settings_eq := by
    apply eq_ok_of_toOption
    change (Settings.load Yaml.Document.ofText? {} [] defaultConfig {}).toOption = some {}
    decide +kernel
  query_eq := rfl
  query_head := by decide
  query_fragment := by decide
  query_info := by decide +kernel
  publicUrl_eq := by
    apply eq_ok_of_toOption
    change (Url.parse "http://[2001:db8::1]/preseed").toOption = some callback
    decide +kernel
  reverseName_eq := by
    simp [Options.resolver, optionsFor, Resolver.ofAnswers, Resolver.answer, Options.clientIp]
  hardwareAddress_eq := rfl

def ofUnmapped : Rehearsal :=
  ofIp "10.0.0.5" (.v4 ⟨10, 0, 0, 5⟩) (by decide +kernel)

theorem shows_response_of_unmapped :
    ofUnmapped.peer.address.canonical = ofUnmapped.options.clientIp ∧
      ofUnmapped.server.settings.check = .ok () ∧ ofUnmapped.outcome.Shows ofUnmapped.response := by
  have hpeer : ofUnmapped.peer.address.canonical = ofUnmapped.options.clientIp := by decide
  exact ⟨hpeer, ofUnmapped.shows_response hpeer⟩

def ofMapped : Rehearsal :=
  ofIp "::ffff:10.0.0.5" mappedIp (by decide +kernel)

/-- If the address is rehearsed as it comes, mapped into version 6, other lines are printed. -/
theorem not_shows_response_of_mapped :
    ¬ ∀ c : Rehearsal, c.peer.address = c.options.clientIp → c.outcome.Shows c.response := by
  intro h
  have hbody : ofMapped.outcome.stdout ≠ ofMapped.response.body := by decide +kernel
  exact hbody (h ofMapped rfl).1

end Rehearsal

end Cli

end Preseed

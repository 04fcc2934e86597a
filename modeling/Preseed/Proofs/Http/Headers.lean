import Preseed.Http.Basic
import Preseed.Proofs.Service.Sessions
import Preseed.Proofs.Text.Split

/-! # The headers that an answer depends on

A preseed file or a script depends on two headers at most: on the host if no URL to call back at is
configured, and on the first forwarded address if a proxy is trusted. -/

namespace Preseed

/-! ## Other headers -/

namespace Headers

variable (headers : Headers) {name other : String}

theorem lookup_set_of_ne (h : other ≠ name) (value : Bytes) :
    (headers.set name value).lookup other = headers.lookup other := by
  have hbeq : (other == name) = false := beq_false_of_ne h
  induction headers with
  | nil => simp [set, List.lookup_cons, hbeq]
  | cons field headers ih =>
      obtain ⟨n, values⟩ := field
      unfold set
      by_cases hn : n = name
      · subst hn
        simp [List.lookup_cons, hbeq]
      · rw [if_neg hn, List.lookup_cons, List.lookup_cons, ih]

theorem first?_set_of_ne (h : other ≠ name) (value : Bytes) :
    (headers.set name value).first? other = headers.first? other := by
  rw [first?, lookup_set_of_ne headers h, first?]

theorem text?_congr {headers headers' : Headers} (h : headers'.first? name = headers.first? name) :
    headers'.text? name = headers.text? name := by
  rw [text?, h, text?]

end Headers

/-- Services that were built alike differ in the count of closed sessions only. -/
theorem Service.exists_withClosed_of_fresh {σ : Type} {s s' : Service σ} (h : s'.fresh = s.fresh) :
    ∃ n, s' = s.withClosed n := by
  refine ⟨s'.directory.closed, ?_⟩
  rw [← withClosed_withClosed s 0, ← fresh, ← h, fresh, withClosed_withClosed, withClosed_closed]

namespace Http

variable {σ : Type}

/-! ## The client's address -/

/-- The first entry of the list that the first header of a proxy gives, if its text is visible ASCII. -/
def firstForwarded? (headers : Headers) : Option (List Char) :=
  (headers.text? "x-forwarded-for").bind fun list => (Split.pieces ',' list.toList).head?

theorem forwardedFor?_eq (headers : Headers) :
    forwardedFor? headers = (firstForwarded? headers).bind fun entry =>
      Net.Address.ofString? (String.ofList (Blank.trim entry)) := by
  unfold forwardedFor? firstForwarded?
  cases headers.text? "x-forwarded-for" with
  | none => rfl
  | some list => rw [Option.bind_some, Option.bind_some, Split.head?_pieces, Option.bind_some]

theorem clientIp_congr {trust : Bool} {headers headers' : Headers} {peer peer' : Net.Endpoint}
    (hpeer : peer'.address = peer.address)
    (hforwarded : trust = true → firstForwarded? headers' = firstForwarded? headers) :
    clientIp trust headers' peer' = clientIp trust headers peer := by
  unfold clientIp
  cases trust with
  | false => simp [hpeer]
  | true => simp [hpeer, forwardedFor?_eq, hforwarded rfl]

/-! ## The URL to call back at -/

theorem baseUrl_congr {publicUrl : Option String} {headers headers' : Headers} {path path' : String}
    (h : publicUrl.isSome = true ∨
      path' = path ∧ headers'.first? "host" = headers.first? "host") :
    baseUrl publicUrl headers' path' = baseUrl publicUrl headers path := by
  cases publicUrl with
  | some text => rfl
  | none =>
      obtain ⟨hpath, hhost⟩ := h.resolve_left Bool.false_ne_true
      simp only [baseUrl, hpath, Headers.text?_congr hhost]

/-! ## Answers -/

/-- What a request on a route of the preseed file comes to. -/
def result (s : Service σ) (r : Request) : Except ServiceError Answer :=
  match baseUrl s.settings.server.publicUrl r.headers r.target.path with
  | .error e => .error e
  | .ok u =>
    (s.handle
      { ip := clientIp s.settings.server.trustForwardedFor r.headers r.peer
        query := r.target.query.getD "", baseUrl := u, headers := r.headers.toList }).2

theorem preseed_snd_eq_respond (s : Service σ) (id : Bytes) (r : Request) :
    (preseed s id r).2 = respond id (result s r) := by
  unfold preseed result
  dsimp only
  cases baseUrl s.settings.server.publicUrl r.headers r.target.path <;> rfl

theorem handle_of_get (s : Service σ) (c : Circumstances) {r : Request} {route : Route}
    (hmethod : r.method = "GET") (hroute : Route.ofPath? r.target.path = some route) :
    handle s c r = get s c (identify c r).2 (identify c r).1 route := by
  rw [handle]
  simp only [identify, hroute, hmethod, if_true]

theorem result_congr {s s' : Service σ} (hs : s'.fresh = s.fresh) {r r' : Request}
    (hquery : r'.target.query.getD "" = r.target.query.getD "")
    (hinfo : (Params.parse (r.target.query.getD "")).info = false)
    (hip : clientIp s.settings.server.trustForwardedFor r'.headers r'.peer =
      clientIp s.settings.server.trustForwardedFor r.headers r.peer)
    (hurl : baseUrl s.settings.server.publicUrl r'.headers r'.target.path =
      baseUrl s.settings.server.publicUrl r.headers r.target.path) :
    result s' r' = result s r := by
  obtain ⟨n, rfl⟩ := Service.exists_withClosed_of_fresh hs
  unfold result
  change (match baseUrl s.settings.server.publicUrl r'.headers r'.target.path with
    | .error e => _
    | .ok u => _) = _
  rw [hurl]
  cases baseUrl s.settings.server.publicUrl r.headers r.target.path with
  | error e => rfl
  | ok u =>
      dsimp only
      rw [Service.handle_withClosed_snd]
      exact Service.handle_congr rfl rfl rfl rfl rfl rfl rfl hip hquery rfl fun h =>
        absurd h (by simp [hinfo])

/-- Two requests for a preseed file or a script by the same client have the same answer, whatever other
headers they have, and however many requests were answered before. The path matters, and with it the host,
only if no URL to call back at is configured; the first entry of a proxy's list matters only if proxies are
trusted. -/
theorem answer_ignores_headers {s s' : Service σ} (hs : s'.fresh = s.fresh) (c c' : Circumstances)
    {r r' : Request} (hget : r.method = "GET") (hget' : r'.method = "GET")
    (hroute : Route.ofPath? r.target.path = some .preseed)
    (hroute' : Route.ofPath? r'.target.path = some .preseed)
    (hquery : r'.target.query.getD "" = r.target.query.getD "")
    (hinfo : (Params.parse (r.target.query.getD "")).info = false)
    (hpeer : r'.peer.address = r.peer.address)
    (hhost : s.settings.server.publicUrl.isSome = true ∨
      r'.target.path = r.target.path ∧ r'.headers.first? "host" = r.headers.first? "host")
    (hproxy : s.settings.server.trustForwardedFor = true →
      ∃ entry, firstForwarded? r.headers = some entry ∧ firstForwarded? r'.headers = some entry) :
    let response := (handle s c r).2
    let response' := (handle s' c' r').2
    response'.status = response.status ∧ response'.contentType = response.contentType ∧
      response'.body = response.body := by
  intro response response'
  have hid : ∀ name, name ≠ requestIdName → ∀ (c : Circumstances) (r : Request),
      (identify c r).1.headers.first? name = r.headers.first? name := fun name hname c r =>
    Headers.first?_set_of_ne r.headers hname _
  have hresult : result s' (identify c' r').1 = result s (identify c r).1 := by
    refine result_congr hs hquery hinfo (clientIp_congr hpeer ?_) (baseUrl_congr ?_)
    · intro htrust
      obtain ⟨entry, hentry, hentry'⟩ := hproxy htrust
      have hlist : ∀ c r, firstForwarded? (identify c r).1.headers = firstForwarded? r.headers := by
        intro c r
        rw [firstForwarded?, Headers.text?_congr (hid _ (by decide) c r), firstForwarded?]
      rw [hlist, hlist, hentry, hentry']
    · refine hhost.imp_right ?_
      rintro ⟨hpath, hsame⟩
      refine ⟨hpath, ?_⟩
      rw [hid _ (by decide), hid _ (by decide), hsame]
  have hresponse : response = respond (identify c r).2 (result s (identify c r).1) := by
    rw [← preseed_snd_eq_respond]
    exact congrArg Prod.snd (handle_of_get s c hget hroute)
  have hresponse' : response' = respond (identify c' r').2 (result s (identify c r).1) := by
    rw [← hresult, ← preseed_snd_eq_respond]
    exact congrArg Prod.snd (handle_of_get s' c' hget' hroute')
  rw [hresponse, hresponse']
  cases result s (identify c r).1 <;> exact ⟨rfl, rfl, rfl⟩

/-- Two installers behind one proxy tell different stories of the way they came. -/
theorem answer_ignores_headers_of_proxy :
    let s : Service Unit :=
      { settings := { server := { trustForwardedFor := true } }
        registry := .empty, resolver := .ofAnswers [] [], files := {}, directory := {} }
    let c : Circumstances := { now := "", freshId := [] }
    let request (fields : List (String × String)) : Request :=
      { target := .ofString "/preseed?script=late"
        headers := .ofList (fields.map fun field => (field.1, Utf8.ofString field.2))
        peer := { address := .v4 ⟨10, 0, 0, 1⟩, port := 40000 } }
    let r := request [("Host", "[2001:db8::1]"), ("X-Forwarded-For", "192.0.2.7, 10.0.0.9"),
      ("X-Forwarded-For", "192.0.2.8")]
    let r' := request [("x-forwarded-for", "192.0.2.7"), ("user-agent", "d-i preseed/late_command"),
      ("host", "[2001:db8::1]"), ("host", "other.example"), ("x-request-id", "7")]
    s.fresh = s.fresh ∧ r.method = "GET" ∧ r'.method = "GET" ∧
      Route.ofPath? r.target.path = some .preseed ∧ Route.ofPath? r'.target.path = some .preseed ∧
      r'.target.query.getD "" = r.target.query.getD "" ∧
      (Params.parse (r.target.query.getD "")).info = false ∧ r'.peer.address = r.peer.address ∧
      (r'.target.path = r.target.path ∧ r'.headers.first? "host" = r.headers.first? "host") ∧
      (∃ entry, firstForwarded? r.headers = some entry ∧ firstForwarded? r'.headers = some entry) ∧
      (handle s c r).2.status = 200 ∧ (handle s c r').2.status = 200 ∧
      (handle s c r').2.body = (handle s c r).2.body := by
  intro s c request r r'
  have hroute : Route.ofPath? r.target.path = some .preseed := by decide +kernel
  have hinfo : (Params.parse (r.target.query.getD "")).info = false := by decide +kernel
  have hhost : r'.headers.first? "host" = r.headers.first? "host" := by decide +kernel
  have hproxy : ∃ entry, firstForwarded? r.headers = some entry ∧
      firstForwarded? r'.headers = some entry := ⟨"192.0.2.7".toList, by decide +kernel⟩
  obtain ⟨hstatus, -, hbody⟩ := @answer_ignores_headers _ s s rfl c c r r' rfl rfl hroute hroute rfl
    hinfo rfl (.inr ⟨rfl, hhost⟩) fun _ => hproxy
  have hok : (handle s c r).2.status = 200 := by decide +kernel
  exact ⟨rfl, rfl, rfl, hroute, hroute, rfl, hinfo, rfl, ⟨rfl, hhost⟩, hproxy, hok,
    hstatus.trans hok, hbody⟩

end Http

end Preseed

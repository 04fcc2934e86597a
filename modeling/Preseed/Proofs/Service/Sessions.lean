import Preseed.Proofs.Lifecycle.Closing
import Preseed.Service.Basic

/-! # Sessions with the directory

Every session that a request opens is closed when the request is answered, however it ended, and only then
if the plugins leave it open. Apart from the count of closed sessions a request leaves nothing behind, so no
answer depends on the requests before. -/

namespace Preseed.Service

variable {σ : Type}

/-! ## What an answer depends on -/

/-- An answer depends on the look-up of classes, the plugins, the files, the directory's answers, and on
what is resolved for this one client. Headers matter to the info page only. -/
theorem handle_congr {s t : Service σ} {r q : Request} (hldap : t.settings.ldap = s.settings.ldap)
    (hplugins : t.settings.plugins = s.settings.plugins) (hregistry : t.registry = s.registry)
    (hfiles : t.files = s.files) (hdirectory : t.directory.connect = s.directory.connect)
    (hname : t.resolver.reverseName r.ip = s.resolver.reverseName r.ip)
    (hhardware : t.resolver.hardwareAddress r.ip = s.resolver.hardwareAddress r.ip)
    (hip : q.ip = r.ip) (hquery : q.query = r.query) (hurl : q.baseUrl = r.baseUrl)
    (hheaders : (Params.parse r.query).info = true → q.headers = r.headers) :
    (t.handle q).2 = (s.handle r).2 := by
  have hsource : t.pluginSource = s.pluginSource := by simp only [pluginSource, hplugins]
  have hbuilder : ∀ params, t.builder r.ip params = s.builder r.ip params := by
    intro params
    simp only [builder, hname, hhardware]
  have hrender : ∀ session b params url,
      t.render session b params url = s.render session b params url := by
    intro session b params url
    simp only [render, client, run, hldap, hsource, hregistry, hfiles]
  unfold handle
  simp only [hip, hquery, hurl, hbuilder, hdirectory, hrender]
  cases hinfo : (Params.parse r.query).info with
  | true =>
      simp only [if_true, infoPage, hsource, hregistry, hfiles, hheaders hinfo]
  | false =>
      simp only [Bool.false_eq_true, if_false]
      cases s.directory.connect <;> rfl

/-! ## One request -/

/-- The service with another count of closed sessions. -/
def withClosed (s : Service σ) (n : Nat) : Service σ :=
  { s with directory := { s.directory with closed := n } }

/-- The service as it was built. -/
def fresh (s : Service σ) : Service σ :=
  s.withClosed 0

/-- Whether a request opens a session: it asks the directory, and the directory accepts it. -/
def opensSession (s : Service σ) (r : Request) : Bool :=
  !(Params.parse r.query).info && s.directory.connect.toBool

theorem opensSession_iff (s : Service σ) (r : Request) :
    s.opensSession r = true ↔
      (Params.parse r.query).info = false ∧ ∃ session, s.directory.connect = .ok session := by
  rw [opensSession, Bool.and_eq_true, Bool.not_eq_true']
  cases s.directory.connect <;> simp [Except.toBool]

@[simp] theorem closed_withClosed (s : Service σ) (n : Nat) : (s.withClosed n).directory.closed = n :=
  rfl

@[simp] theorem withClosed_withClosed (s : Service σ) (n m : Nat) :
    (s.withClosed n).withClosed m = s.withClosed m := rfl

@[simp] theorem withClosed_closed (s : Service σ) : s.withClosed s.directory.closed = s := rfl

/-- How many sessions were closed before makes no difference to the next one. -/
@[simp] theorem connect_withClosed (s : Service σ) (n : Nat) :
    (s.withClosed n).directory.connect = s.directory.connect := by
  unfold Directory.connect withClosed
  dsimp only
  split <;> rfl

@[simp] theorem opensSession_withClosed (s : Service σ) (n : Nat) (r : Request) :
    (s.withClosed n).opensSession r = s.opensSession r := by
  rw [opensSession, opensSession, connect_withClosed]

/-- How often plugins close the session that is opened for a request. -/
def pluginCloses (s : Service σ) (r : Request) : Nat :=
  match s.directory.connect with
  | .error _ => 0
  | .ok session =>
    let params := Params.parse r.query
    (s.render session (s.builder r.ip params) params r.baseUrl).closes

@[simp] theorem pluginCloses_withClosed (s : Service σ) (n : Nat) (r : Request) :
    (s.withClosed n).pluginCloses r = s.pluginCloses r := by
  rw [pluginCloses, pluginCloses, connect_withClosed]
  rfl

/-- How often a request closes sessions: the service closes the one that it opened, once. -/
def closings (s : Service σ) (r : Request) : Nat :=
  if s.opensSession r then s.pluginCloses r + 1 else 0

@[simp] theorem closings_withClosed (s : Service σ) (n : Nat) :
    (s.withClosed n).closings = s.closings := by
  funext r
  rw [closings, closings, opensSession_withClosed, pluginCloses_withClosed]

/-- How often requests close sessions, all together. -/
def allClosings (s : Service σ) (rs : List Request) : Nat :=
  rs.foldr (fun r n => s.closings r + n) 0

theorem allClosings_cons (s : Service σ) (r : Request) (rs : List Request) :
    s.allClosings (r :: rs) = s.closings r + s.allClosings rs := rfl

theorem allClosings_withClosed (s : Service σ) (n : Nat) :
    (s.withClosed n).allClosings = s.allClosings := by
  funext rs
  rw [allClosings, allClosings, closings_withClosed]

/-- A request leaves the service as it was, with the session closed that it opened. -/
theorem handle_fst (s : Service σ) (r : Request) :
    (s.handle r).1 = s.withClosed (s.directory.closed + s.closings r) := by
  unfold handle closings opensSession pluginCloses
  dsimp only
  cases (Params.parse r.query).info with
  | true => rfl
  | false => cases s.directory.connect <;> rfl

/-- Plugins that leave sessions open close none. -/
theorem pluginCloses_eq_zero {s : Service σ} (h : s.registry.LeavesSession) (r : Request) :
    s.pluginCloses r = 0 := by
  unfold pluginCloses
  cases s.directory.connect with
  | error e => rfl
  | ok session =>
      simp only [render]
      cases s.client session (s.builder r.ip (Params.parse r.query)) with
      | error e => rfl
      | ok client =>
          obtain ⟨hcloses, hplugins⟩ := PluginSource.load_leavesSession h s.pluginSource s.files
            (Params.parse r.query).plugin session client
          simp only [run]
          split
          · exact hcloses
          · rename_i plugins hresult
            rw [hcloses, Lifecycle.closes_run _ (hplugins plugins hresult)]

theorem closings_of_leavesSession {s : Service σ} (h : s.registry.LeavesSession) (r : Request) :
    s.closings r = if s.opensSession r then 1 else 0 := by
  rw [closings, pluginCloses_eq_zero h]

theorem handle_withClosed_snd (s : Service σ) (n : Nat) (r : Request) :
    ((s.withClosed n).handle r).2 = (s.handle r).2 :=
  handle_congr rfl rfl rfl rfl (connect_withClosed s n) rfl rfl rfl rfl rfl fun _ => rfl

/-! ## A sequence of requests -/

/-- Answers requests one after the other. -/
def serve (s : Service σ) : List Request → Service σ × List (Except ServiceError Answer)
  | [] => (s, [])
  | r :: rs =>
    let (s, answer) := s.handle r
    let (s, answers) := s.serve rs
    (s, answer :: answers)

theorem serve_fst (s : Service σ) (rs : List Request) :
    (s.serve rs).1 = s.withClosed (s.directory.closed + s.allClosings rs) := by
  induction rs generalizing s with
  | nil => rfl
  | cons r rs ih =>
      have hrest : (s.serve (r :: rs)).1 = ((s.handle r).1.serve rs).1 := rfl
      rw [hrest, ih, handle_fst, allClosings_withClosed, closed_withClosed, withClosed_withClosed,
        allClosings_cons, Nat.add_assoc]

/-- Of plugins that leave sessions open, each request that opens a session closes one. -/
theorem allClosings_of_leavesSession {s : Service σ} (h : s.registry.LeavesSession)
    (rs : List Request) : s.allClosings rs = rs.countP s.opensSession := by
  induction rs with
  | nil => rfl
  | cons r rs ih =>
      rw [allClosings_cons, ih, closings_of_leavesSession h, List.countP_cons, Nat.add_comm]

theorem serve_snd (s : Service σ) (rs : List Request) :
    (s.serve rs).2 = rs.map fun r => (s.fresh.handle r).2 := by
  induction rs generalizing s with
  | nil => rfl
  | cons r rs ih =>
      have hrest : (s.serve (r :: rs)).2 = (s.handle r).2 :: ((s.handle r).1.serve rs).2 := rfl
      have hfresh : (s.handle r).1.fresh = s.fresh := by
        rw [handle_fst, fresh, withClosed_withClosed, fresh]
      rw [hrest, ih, hfresh, List.map_cons, fresh, handle_withClosed_snd]

/-- After any requests, the next one closes the session that it opens once, if it opens one, and whatever it
is answered; sessions are closed more often only by plugins. Where no plugin does that, of a service that was
just built as many sessions are closed as were opened. Every answer is the one that a service just built
gives. -/
theorem sessions_closed (s : Service σ) (rs : List Request) (r : Request) :
    let s' := (s.serve rs).1
    (s'.opensSession r = true ↔
      (Params.parse r.query).info = false ∧ ∃ session, s.directory.connect = .ok session) ∧
    (s'.handle r).1.directory.closed =
      s'.directory.closed + (if s'.opensSession r then s.pluginCloses r + 1 else 0) ∧
    (s.registry.LeavesSession →
      s.pluginCloses r = 0 ∧
      (s'.handle r).1.directory.closed =
        s'.directory.closed + (if s'.opensSession r then 1 else 0) ∧
      (s.fresh.serve rs).1.directory.closed = rs.countP s.fresh.opensSession) ∧
    (s'.handle r).2 = (s.fresh.handle r).2 ∧
    (s.serve rs).2 = rs.map fun r => (s.fresh.handle r).2 := by
  intro s'
  have hs' : s' = s.withClosed (s.directory.closed + s.allClosings rs) := serve_fst s rs
  have hclosed : (s'.handle r).1.directory.closed = s'.directory.closed + s'.closings r := by
    rw [handle_fst, closed_withClosed]
  refine ⟨?_, ?_, fun hplugins => ⟨pluginCloses_eq_zero hplugins r, ?_, ?_⟩, ?_, serve_snd s rs⟩
  · rw [hs', opensSession_withClosed, opensSession_iff]
  · rw [hclosed, closings, hs', pluginCloses_withClosed]
  · have hplugins' : s'.registry.LeavesSession := by
      rw [hs']
      exact hplugins
    rw [hclosed, closings_of_leavesSession hplugins']
  · have hfresh : s.fresh.registry.LeavesSession := hplugins
    rw [serve_fst, closed_withClosed, allClosings_of_leavesSession hfresh]
    exact Nat.zero_add _
  · rw [hs', handle_withClosed_snd, fresh, handle_withClosed_snd]

/-- The info page opens no session; the others are closed after an answer, a hook that failed and settings that
were refused. -/
theorem sessions_closed_of_failures :
    let factory : Factory Unit :=
      { make := fun init =>
          if init.client.name = "strict" then .error (.settings init.name "refused")
          else .ok
            { state := ()
              call := fun hook _ _ =>
                { state := ()
                  failure :=
                    if init.client.name = "broken" ∧ hook = .tearDown then some (.execution "boom")
                    else none } } }
    let s : Service Unit :=
      { settings := { plugins := { directory := "plugins" } }
        registry := Registry.empty.register "Probe" factory
        resolver := .ofAnswers [] []
        files := ({} : FileTree).add "plugins/probe.yaml" (.file (Utf8.ofString "kind: Probe\n"))
        directory := .ofEntries [] }
    let request (query : String) : Request :=
      { ip := .v4 ⟨10, 0, 0, 5⟩, query
        baseUrl := { scheme := "http", host := some (.name "install.lab.example")
                     path := .segments ["preseed"] } }
    let rs := ["info=1", "client=plain", "client=broken", "client=strict&script=0"].map request
    let r := request "client=broken&script=1"
    s.registry.LeavesSession ∧ rs.map s.fresh.opensSession = [false, true, true, true] ∧
      (s.serve rs).2.map (·.isOk) = [true, true, false, false] ∧
      (s.fresh.serve rs).1.directory.closed = 3 ∧ (s.serve rs).1.opensSession r = true ∧
      ((s.serve rs).1.handle r).1.directory.closed = (s.serve rs).1.directory.closed + 1 := by
  intro factory s request rs r
  have hfactory : factory.LeavesSession := by
    refine ⟨fun init => rfl, fun init p hp => ?_⟩
    simp only [factory] at hp
    split at hp
    · cases hp
    · obtain rfl := Except.ok.inj hp
      exact fun _ _ _ => rfl
  have hleaves : s.registry.LeavesSession :=
    Registry.LeavesSession.register (fun _ h => absurd h List.not_mem_nil) "Probe" hfactory
  have hopens : rs.map s.fresh.opensSession = [false, true, true, true] := by decide +kernel
  obtain ⟨hiff, -, hclosed, -, hanswers⟩ := sessions_closed s rs r
  obtain ⟨-, hone, hall⟩ := hclosed hleaves
  have hopen : (s.serve rs).1.opensSession r = true := hiff.mpr ⟨by decide +kernel, _, rfl⟩
  refine ⟨hleaves, hopens, ?_, ?_, hopen, ?_⟩
  · rw [hanswers]
    decide +kernel
  · rw [hall]
    decide +kernel
  · rw [hone, if_pos hopen]

end Preseed.Service

import Preseed.Proofs.Client.LinkQuery
import Preseed.Service.Basic

/-! # Requests for scripts

The query of a script's URL is read back as what it was made from: architecture, distribution, node and
plugin filter. It carries neither the name that a request gave its client nor the classes, so a script
is rendered for the client of the directives only where the request gave none of these. -/

namespace Preseed

/-! ## The query of a link -/

namespace Params

/-- What the URL of a script asks for. -/
def ofLink (phase : Phase) (client : Client) (plugin : Option String) : Params :=
  { node := client.node
    arch := client.architecture
    distro := some client.distro |>.filter (!·.isEmpty)
    plugin
    script := some phase.toString
    version := some "0" }

theorem mode_ofLink (phase : Phase) (client : Client) (plugin : Option String) :
    (ofLink phase client plugin).mode = .script phase := by
  cases phase <;> rfl

theorem ofPairs_pairs (phase : Phase) {client : Client} {plugin : Option String}
    (harch : ∀ v ∈ client.architecture, IsUsable v) (hdistro : isSafe client.distro = true)
    (hplugin : ∀ v ∈ plugin, IsUsable v) (hnode : ∀ v ∈ client.node, IsUsable v) :
    ofPairs (ScriptLink.pairs phase client plugin) = ofLink phase client plugin := by
  have hall : ∀ value : Option String, (∀ v ∈ value, IsUsable v) →
      value.filter (IsUsable ·) = value := by
    rintro (_ | v) h
    · rfl
    · rw [Option.filter_some, if_pos (decide_eq_true (h v rfl))]
  have hempty : (some client.distro).filter (IsUsable ·) =
      (some client.distro).filter (!·.isEmpty) := by
    simp [Option.filter, IsUsable, hdistro]
  rw [ofPairs_pairs_eq, hempty, hall _ harch, hall _ hplugin, hall _ hnode, ofLink]

/-- The query of a link is read as what the link was made from. -/
theorem parse_of_query_url {base : Url} {phase : Phase} {client : Client} {plugin : Option String}
    (harch : ∀ v ∈ client.architecture, IsUsable v) (hdistro : isSafe client.distro = true)
    (hplugin : ∀ v ∈ plugin, IsUsable v) (hnode : ∀ v ∈ client.node, IsUsable v) {query : String}
    (hquery : ((ScriptLink.ofUrl base).url phase client plugin).query = some query) :
    parse query = ofLink phase client plugin := by
  obtain rfl : String.ofList (Form.encode (ScriptLink.pairs phase client plugin)) = query :=
    Option.some.inj hquery
  rw [parse, Form.decode_encode, ofPairs_pairs phase harch hdistro hplugin hnode]

end Params

/-! ## What a request is answered for -/

/-- What an answer is rendered for. -/
structure View where
  client : Client
  mode : Mode
  /-- The plugin filter. -/
  plugin : Option String

namespace Service

variable {σ : Type}

/-- What a request is answered for when it does not ask for the info page. -/
def view (s : Service σ) (r : Request) : Except ServiceError View :=
  match s.directory.connect with
  | .error e => .error (.directory e)
  | .ok session =>
    let params := Params.parse r.query
    match s.client session (s.builder r.ip params) with
    | .error e => .error e
    | .ok client => .ok { client, mode := params.mode, plugin := params.plugin }

/-- How the plugins for a view are loaded. -/
def loading (s : Service σ) (view : View) : Loading σ :=
  s.pluginSource.load s.registry s.files view.plugin s.directory.session view.client

/-- The answer for a view. -/
def answer (s : Service σ) (view : View) (baseUrl : Url) : Except ServiceError Answer :=
  match (s.loading view).result with
  | .error e => .error (.plugin e)
  | .ok plugins =>
    let lifecycle : Lifecycle :=
      { mode := view.mode, client := view.client, link := .ofUrl baseUrl
        pluginFilter := view.plugin }
    let r := lifecycle.run plugins {}
    match r.failure with
    | some e => .error (.plugin e)
    | none => .ok { contentType := .plain, body := r.output.render }

/-- A request's view and base URL are all that its answer depends on. -/
theorem handle_eq_answer (s : Service σ) {r : Request} (h : (Params.parse r.query).info = false) :
    (s.handle r).2 =
      match s.view r with
      | .error e => .error e
      | .ok view => s.answer view r.baseUrl := by
  unfold handle view
  dsimp only
  rw [if_neg (by simp [h])]
  cases hconnect : s.directory.connect with
  | error e => rfl
  | ok session =>
      obtain rfl : s.directory.session = session := by
        unfold Directory.connect at hconnect
        split at hconnect
        · cases hconnect
        · exact Except.ok.inj hconnect
      dsimp only
      unfold render
      cases hclient : s.client s.directory.session (s.builder r.ip (Params.parse r.query)) with
      | error e => rfl
      | ok client =>
          dsimp only
          unfold run answer loading
          dsimp only
          cases (s.pluginSource.load s.registry s.files (Params.parse r.query).plugin
            s.directory.session client).result with
          | error e => rfl
          | ok plugins => rfl

/-- The names of the directory's classes for a client. -/
def directoryClasses (s : Service σ) (name : String) : List String :=
  (s.directory.entries.filter fun e =>
    let request := s.settings.ldap.lookup.request name
    request.scope.contains request.base e.dn && request.filter.accepts e).flatMap fun e =>
      e.values s.settings.ldap.lookup.classAttribute

theorem client_of_session {s : Service σ} (b : Client.Builder) (h : s.directory.searchError = none) :
    s.client s.directory.session b =
      .ok (b.extendClasses (s.directoryClasses b.lookupName)).build := by
  have hsearch : ∀ request, s.directory.session.search request = .ok (s.directory.entries.filter
      fun e => request.scope.contains request.base e.dn && request.filter.accepts e) := by
    intro request
    simp [Directory.session, Directory.search, h]
  unfold client ClassLookup.classes
  rw [hsearch]
  rfl

/-- The view that parameters give when the directory answers. -/
def viewOf (s : Service σ) (ip : Net.Address) (params : Params) : View :=
  let b := s.builder ip params
  { client := (b.extendClasses (s.directoryClasses b.lookupName)).build
    mode := params.mode
    plugin := params.plugin }

/-- A directory that answers one request answers every request. -/
theorem view_eq_viewOf {s : Service σ} {r : Request} {view : View} (h : s.view r = .ok view)
    (r' : Request) : s.view r' = .ok (s.viewOf r'.ip (Params.parse r'.query)) := by
  cases hconnect : s.directory.connectError with
  | some text => simp [Service.view, Directory.connect, hconnect] at h
  | none =>
      cases hsearch : s.directory.searchError with
      | some text =>
          simp [Service.view, Directory.connect, hconnect, client, ClassLookup.classes,
            Directory.session, Directory.search, hsearch, bind, Except.bind] at h
      | none =>
          simp [Service.view, Directory.connect, hconnect, client_of_session _ hsearch, viewOf]

/-- Answering a request changes no view. -/
theorem view_handle (s : Service σ) (r r' : Request) : (s.handle r).1.view r' = s.view r' := by
  unfold handle
  dsimp only
  split
  · rfl
  · split <;> rfl

/-! ## The facts that a request gives -/

/-- What a client is called when a request does not name it. -/
def reverseName (s : Service σ) (ip : Net.Address) : String :=
  (s.builder ip {}).resolvedReverseName

section

variable (s : Service σ) (ip : Net.Address) (params : Params)

@[simp] theorem architecture_viewOf : (s.viewOf ip params).client.architecture = params.arch := by
  change (params.arch <|> none) = params.arch
  cases params.arch <;> rfl

@[simp] theorem distro_viewOf : (s.viewOf ip params).client.distro = params.distro.getD "" := rfl

@[simp] theorem node_viewOf : (s.viewOf ip params).client.node = params.node := by
  change (params.node <|> none) = params.node
  cases params.node <;> rfl

@[simp] theorem mode_viewOf : (s.viewOf ip params).mode = params.mode := rfl

@[simp] theorem plugin_viewOf : (s.viewOf ip params).plugin = params.plugin := rfl

@[simp] theorem reverseName_viewOf :
    (s.viewOf ip params).client.reverseName = s.reverseName ip := rfl

@[simp] theorem name_viewOf :
    (s.viewOf ip params).client.name = params.client.getD (s.reverseName ip) := by
  change (params.client <|> none).getD _ = _
  cases params.client <;> rfl

@[simp] theorem classes_viewOf :
    (s.viewOf ip params).client.classes =
      defaultClass :: (params.classes ++ params.node.toList) ++
        s.directoryClasses (s.viewOf ip params).client.name := rfl

/-- The view of the script that a view links to. -/
def linkedView (phase : Phase) : View :=
  s.viewOf ip (.ofLink phase (s.viewOf ip params).client (s.viewOf ip params).plugin)

variable (phase : Phase)

theorem mode_linkedView : (s.linkedView ip params phase).mode = .script phase := by
  rw [linkedView, mode_viewOf, Params.mode_ofLink]

theorem distro_linkedView :
    (s.linkedView ip params phase).client.distro = (s.viewOf ip params).client.distro := by
  rw [linkedView, distro_viewOf, Params.ofLink]
  generalize (s.viewOf ip params).client.distro = distro
  by_cases h : distro = ""
  · simp [h, Option.filter]
  · simp [h, Option.filter]

theorem name_linkedView_eq_iff :
    (s.linkedView ip params phase).client.name = (s.viewOf ip params).client.name ↔
      ∀ name ∈ params.client, name = (s.viewOf ip params).client.reverseName := by
  rw [linkedView, name_viewOf, name_viewOf, reverseName_viewOf]
  cases params.client with
  | none => simp [Params.ofLink]
  | some name => simp [Params.ofLink, eq_comm]

theorem classes_linkedView_eq_iff
    (hname : (s.linkedView ip params phase).client.name = (s.viewOf ip params).client.name) :
    (s.linkedView ip params phase).client.classes = (s.viewOf ip params).client.classes ↔
      params.classes = [] := by
  rw [linkedView] at hname ⊢
  rw [classes_viewOf, classes_viewOf, hname]
  simp [Params.ofLink]

end

/-- The view for the query of a script's URL. -/
theorem view_of_query_url {s : Service σ} {r r' : Request} {view : View} {phase : Phase}
    (hview : s.view r = .ok view) (hip : r'.ip = r.ip)
    (hquery : ((ScriptLink.ofUrl r.baseUrl).url phase view.client view.plugin).query =
      some r'.query) :
    Params.parse r'.query = .ofLink phase view.client view.plugin ∧
      s.view r' = .ok (s.linkedView r.ip (Params.parse r.query) phase) := by
  have hparams := Params.isSafe_parse r.query
  have hsecond := view_eq_viewOf hview r'
  obtain rfl := Except.ok.inj (hview.symm.trans (view_eq_viewOf hview r))
  have hdistro : isSafe (s.viewOf r.ip (Params.parse r.query)).client.distro = true := by
    rw [distro_viewOf]
    cases h : (Params.parse r.query).distro with
    | none => exact isSafe_empty
    | some d => exact (hparams.distro d h).2
  have hparse := Params.parse_of_query_url (by simpa using hparams.arch) hdistro
    (by simpa using hparams.plugin) (by simpa using hparams.node) hquery
  refine ⟨hparse, ?_⟩
  rw [hsecond, hparse, hip, linkedView]

/-- A request with the query of a script's URL is answered for the same architecture, distribution and
node under the same plugin filter. The name and the classes are the same exactly when the first request
named its client as the resolver does, if at all, and gave no classes. -/
theorem view_callback (s : Service σ) (r : Request) (phase : Phase) {view : View}
    (hview : s.view r = .ok view) (r' : Request) (hip : r'.ip = r.ip)
    (hquery : ((ScriptLink.ofUrl r.baseUrl).url phase view.client view.plugin).query =
      some r'.query) :
    let s' := (s.handle r).1
    ∃ view', s'.view r' = .ok view' ∧ (s'.handle r').2 = s'.answer view' r'.baseUrl ∧
      view'.mode = .script phase ∧ view'.plugin = view.plugin ∧
      view'.client.architecture = view.client.architecture ∧
      view'.client.distro = view.client.distro ∧ view'.client.node = view.client.node ∧
      (view'.client.name = view.client.name ↔
        ∀ name ∈ (Params.parse r.query).client, name = view.client.reverseName) ∧
      (view'.client.name = view.client.name ∧ view'.client.classes = view.client.classes ↔
        (∀ name ∈ (Params.parse r.query).client, name = view.client.reverseName) ∧
          (Params.parse r.query).classes = []) := by
  intro s'
  obtain ⟨hparse, hsecond⟩ := view_of_query_url hview hip hquery
  obtain rfl := Except.ok.inj (hview.symm.trans (view_eq_viewOf hview r))
  have hview' : s'.view r' = .ok (s.linkedView r.ip (Params.parse r.query) phase) := by
    rw [view_handle, hsecond]
  have hanswer : (s'.handle r').2 =
      s'.answer (s.linkedView r.ip (Params.parse r.query) phase) r'.baseUrl := by
    rw [handle_eq_answer s' (by rw [hparse]; rfl), hview']
  have hname := s.name_linkedView_eq_iff r.ip (Params.parse r.query) phase
  refine ⟨_, hview', hanswer, mode_linkedView _ _ _ _, rfl, architecture_viewOf _ _ _,
    distro_linkedView _ _ _ _, node_viewOf _ _ _, hname, ?_⟩
  rw [← hname]
  exact and_congr_right (classes_linkedView_eq_iff s r.ip (Params.parse r.query) phase)

theorem view_callback_of_node :
    let s : Service Unit :=
      { settings := {}, registry := .empty, files := {}
        resolver := .ofAnswers [(.v4 ⟨10, 0, 0, 5⟩, "host5.lab.example")] []
        directory := .ofEntries [{
          dn := "cn=gpu,dc=example,dc=org"
          attributes := [("cn", ["gpu"]), ("objectClass", ["preseedObject"]),
            ("preseedValue", ["host5.lab.example"])] }] }
    let base : Url :=
      { scheme := "http", host := some (.name "install.lab.example"), path := .segments ["preseed"] }
    let r : Request := { ip := .v4 ⟨10, 0, 0, 5⟩, query := "node=n7&arch=amd64", baseUrl := base }
    let r' : Request :=
      { ip := .v4 ⟨10, 0, 0, 5⟩, query := "v=0&script=early&arch=amd64&node=n7", baseUrl := base }
    ∃ view, s.view r = .ok view ∧ r'.ip = r.ip ∧
      ((ScriptLink.ofUrl r.baseUrl).url .early view.client view.plugin).query = some r'.query ∧
      ∃ view', (s.handle r).1.view r' = .ok view' ∧
        view'.client.name = view.client.name ∧ view'.client.classes = view.client.classes := by
  intro s base r r'
  have hview : s.view r = .ok (s.viewOf r.ip (Params.parse r.query)) := by rfl
  have hquery : ((ScriptLink.ofUrl r.baseUrl).url .early (s.viewOf r.ip (Params.parse r.query)).client
      (s.viewOf r.ip (Params.parse r.query)).plugin).query = some r'.query := by decide +kernel
  have hclient : (Params.parse r.query).client = none := by decide +kernel
  have hclasses : (Params.parse r.query).classes = [] := by decide +kernel
  refine ⟨_, hview, rfl, hquery, ?_⟩
  obtain ⟨view', hview', -, -, -, -, -, -, -, hsame⟩ :=
    view_callback s r .early hview r' rfl hquery
  refine ⟨view', hview', hsame.mpr ⟨?_, hclasses⟩⟩
  intro name hname
  rw [hclient] at hname
  cases hname

/-- A name that a request gave, and its classes, are lost on the way to the script. -/
theorem view_not_rebuilt :
    ¬ ∀ (s : Service Unit) (r r' : Request) (phase : Phase) (view view' : View),
      view.mode = .preseed → (Params.parse r.query).info = false → s.view r = .ok view →
      r'.ip = r.ip →
      ((ScriptLink.ofUrl r.baseUrl).url phase view.client view.plugin).query = some r'.query →
      (s.handle r).1.view r' = .ok view' →
      view'.client.name = view.client.name ∧ view'.client.classes = view.client.classes := by
  intro h
  let s : Service Unit :=
    { settings := {}, registry := .empty, files := {}, resolver := .ofAnswers [] []
      directory := .ofEntries [] }
  let base : Url :=
    { scheme := "http", host := some (.name "install.lab.example"), path := .segments ["preseed"] }
  let r : Request :=
    { ip := .v4 ⟨10, 0, 0, 5⟩, query := "client=host7&class=web&node=n7", baseUrl := base }
  let r' : Request :=
    { ip := .v4 ⟨10, 0, 0, 5⟩, query := "v=0&script=early&node=n7", baseUrl := base }
  have hview : s.view r = .ok (s.viewOf r.ip (Params.parse r.query)) := by rfl
  have hview' : (s.handle r).1.view r' = .ok (s.viewOf r'.ip (Params.parse r'.query)) := by
    rw [view_handle]
    exact view_eq_viewOf hview r'
  have hmode : (s.viewOf r.ip (Params.parse r.query)).mode = .preseed := by decide +kernel
  have hinfo : (Params.parse r.query).info = false := by decide +kernel
  have hsame := h s r r' .early _ _ hmode hinfo hview rfl (by decide +kernel) hview'
  revert hsame
  decide +kernel

end Service

end Preseed

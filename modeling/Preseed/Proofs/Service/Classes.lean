import Preseed.Proofs.Client.Query
import Preseed.Proofs.Directory.Matching
import Preseed.Proofs.Plugin.Loading
import Preseed.Proofs.Service.Callback

/-! # The classes that plugins see

Every plugin of a request is made for the same client. Its classes are the default one, those of the query,
the node, and those that the directory lists the client in under the name that the client has. -/

namespace Preseed.Service

variable {σ : Type}

/-! ## Factories -/

/-- The calls of factories for a view. -/
def factoryCalls (s : Service σ) (view : View) : List (FactoryCall σ) :=
  (s.loading view).calls

/-- The plugins for a view come from these calls and no others. -/
def LoadsBy (s : Service σ) (view : View) (calls : List (FactoryCall σ)) : Prop :=
  match s.pluginSource.discover s.files view.plugin with
  | .error _ => calls = []
  | .ok found =>
    PluginSource.Loads s.registry s.files s.directory.session view.client found calls
      (s.loading view).result

theorem loadsBy_factoryCalls (s : Service σ) (view : View) :
    s.LoadsBy view (s.factoryCalls view) := by
  unfold LoadsBy factoryCalls loading
  cases hfound : s.pluginSource.discover s.files view.plugin with
  | error e =>
      rw [PluginSource.load, hfound]
      rfl
  | ok found =>
      dsimp only
      rw [PluginSource.load, hfound]
      exact PluginSource.loads_instantiateAll found

theorem LoadsBy.client_eq {s : Service σ} {view : View} {calls : List (FactoryCall σ)}
    (h : s.LoadsBy view calls) : ∀ call ∈ calls, call.init.client = view.client := by
  unfold LoadsBy at h
  cases hfound : s.pluginSource.discover s.files view.plugin with
  | error e =>
      rw [hfound] at h
      simp [h]
  | ok found =>
      rw [hfound] at h
      intro call hcall
      obtain ⟨live, rfl⟩ := h.exists_eq_call call hcall
      rfl

/-! ## Classes -/

theorem view_of_directory {s : Service σ} (hconnect : s.directory.connectError = none)
    (hsearch : s.directory.searchError = none) (r : Request) :
    s.view r = .ok (s.viewOf r.ip (Params.parse r.query)) := by
  simp [view, Directory.connect, hconnect, client_of_session _ hsearch, viewOf]

theorem directoryClasses_eq_listing {s : Service σ} (h : ∀ e ∈ s.directory.entries, e.SpellsOnce)
    (name : String) :
    s.directoryClasses name = s.settings.ldap.lookup.listing name s.directory.entries :=
  ClassLookup.flatMap_found_eq_listing h s.settings.ldap.lookup name

/-- The classes that a query asks for, the default one first and the node last. -/
def askedClasses (query : String) : List String :=
  defaultClass :: (Params.givenClasses query ++ (Params.givenNode query).toList)

/-- Every factory that a request calls is given the same client. Its classes are those that the query asks
for and then, in the order of the directory, those that list the client; they are looked up by the name that
the client has. -/
theorem classes_of_factoryCalls (s : Service σ) {r : Request}
    (hinfo : (Params.parse r.query).info = false) (hconnect : s.directory.connectError = none)
    (hsearch : s.directory.searchError = none)
    (hspelling : ∀ e ∈ s.directory.entries, e.SpellsOnce) :
    let lookup := s.settings.ldap.lookup
    ∃ view, s.view r = .ok view ∧ (s.handle r).2 = s.answer view r.baseUrl ∧
      s.LoadsBy view (s.factoryCalls view) ∧
      (s.builder r.ip (Params.parse r.query)).lookupName = view.client.name ∧
      ∀ call ∈ s.factoryCalls view,
        call.init.client = view.client ∧
        call.init.client.classes = askedClasses r.query ++
          (s.directory.entries.filter (lookup.Lists call.init.client.name ·)).flatMap
            (·.allValues lookup.classAttribute) ∧
        ((∀ e ∈ s.directory.entries, ¬ lookup.Lists call.init.client.name e) →
          call.init.client.classes = askedClasses r.query) := by
  intro lookup
  have hview := view_of_directory hconnect hsearch r
  have hloads := s.loadsBy_factoryCalls (s.viewOf r.ip (Params.parse r.query))
  refine ⟨_, hview, ?_, hloads, rfl, ?_⟩
  · rw [handle_eq_answer s hinfo, hview]
  intro call hcall
  have hclient := hloads.client_eq call hcall
  have hclasses : call.init.client.classes =
      askedClasses r.query ++ lookup.listing call.init.client.name s.directory.entries := by
    rw [hclient, classes_viewOf, directoryClasses_eq_listing hspelling, Params.classes_parse,
      Params.node_parse, askedClasses]
  refine ⟨hclient, hclasses, ?_⟩
  intro hnone
  rw [hclasses, ClassLookup.listing_eq_nil hnone, List.append_nil]

/-- The directory spells names in other cases than the settings, and one of its classes lies elsewhere. -/
theorem classes_of_factoryCalls_of_member :
    let s : Service Unit :=
      { settings := { plugins := { directory := "plugins" } }
        registry := Registry.empty.register "Probe"
          { make := fun _ => .ok { state := (), call := fun _ _ _ => { state := () } } }
        resolver := .ofAnswers [] []
        files := ({} : FileTree).add "plugins/probe.yaml" (.file (Utf8.ofString "kind: Probe\n"))
        directory := .ofEntries [
          { dn := "CN=gpu,DC=Example,DC=org"
            attributes := [("CN", ["gpu", "web"]), ("objectclass", ["top", "PreseedObject"]),
              ("preseedValue", ["HOST7"])] },
          { dn := "cn=other,xdc=example,dc=org"
            attributes := [("cn", ["other"]), ("objectClass", ["preseedObject"]),
              ("preseedValue", ["host7"])] }] }
    let r : Request :=
      { ip := .v4 ⟨10, 0, 0, 5⟩, query := "client=host7&class=web&class=a%20b&node=n7&class=web"
        baseUrl := { scheme := "http", host := some (.name "install.lab.example")
                     path := .segments ["preseed"] } }
    (Params.parse r.query).info = false ∧ s.directory.connectError = none ∧
      s.directory.searchError = none ∧ (∀ e ∈ s.directory.entries, e.SpellsOnce) ∧
      ∃ view, s.view r = .ok view ∧ (s.factoryCalls view).length = 1 ∧
        ∀ call ∈ s.factoryCalls view,
          call.init.client.classes = ["default", "web", "web", "n7", "gpu", "web"] := by
  intro s r
  have hinfo : (Params.parse r.query).info = false := by decide +kernel
  have hspelling : ∀ e ∈ s.directory.entries, e.SpellsOnce := by decide +kernel
  obtain ⟨view, hview, -, -, hname, hcalls⟩ := classes_of_factoryCalls s hinfo rfl rfl hspelling
  obtain rfl := Except.ok.inj (hview.symm.trans (view_of_directory rfl rfl r))
  refine ⟨hinfo, rfl, rfl, hspelling, _, hview, by decide +kernel, ?_⟩
  intro call hcall
  obtain ⟨hclient, hclasses, -⟩ := hcalls call hcall
  rw [hclasses, hclient, ← hname]
  decide +kernel

end Preseed.Service

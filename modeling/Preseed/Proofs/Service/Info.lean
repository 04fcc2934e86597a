import Preseed.Proofs.Client.Query
import Preseed.Proofs.Files.Listing
import Preseed.Proofs.Service.Sessions

/-! # Requests for the info page

A request for the info page is answered from what is resolved for its client and from the names of the
plugin files. The directory is not asked, and no definition is read. -/

namespace Preseed

theorem PluginSource.discover_congr (source : PluginSource) {files files' : FileTree}
    (h : files'.list source.directory = files.list source.directory) (filter : Option String) :
    source.discover files' filter = source.discover files filter := by
  unfold PluginSource.discover Definition.discover
  rw [h]

namespace Service

variable {σ τ : Type}

theorem handle_of_info (s : Service σ) {r : Request} (h : (Params.parse r.query).info = true) :
    s.handle r =
      (s, s.infoPage (s.builder r.ip (Params.parse r.query)).build (Params.parse r.query) r.headers) := by
  simp [handle, h]

theorem builder_congr {s : Service σ} {t : Service τ} {ip : Net.Address}
    (hname : t.resolver.reverseName ip = s.resolver.reverseName ip)
    (hhardware : t.resolver.hardwareAddress ip = s.resolver.hardwareAddress ip) (params : Params) :
    t.builder ip params = s.builder ip params := by
  rw [builder, hname, hhardware, builder]

theorem infoPage_congr {s : Service σ} {t : Service τ} (hsource : t.pluginSource = s.pluginSource)
    (hkinds : t.registry.kinds = s.registry.kinds)
    (hfiles : t.files.list s.pluginSource.directory = s.files.list s.pluginSource.directory)
    (c : Client) (params : Params) (headers : List (String × String)) :
    t.infoPage c params headers = s.infoPage c params headers := by
  unfold infoPage
  rw [hsource, hkinds, s.pluginSource.discover_congr hfiles]

theorem handle_snd_congr_of_info {s : Service σ} {t : Service τ} {r : Request}
    (hinfo : (Params.parse r.query).info = true)
    (hname : t.resolver.reverseName r.ip = s.resolver.reverseName r.ip)
    (hhardware : t.resolver.hardwareAddress r.ip = s.resolver.hardwareAddress r.ip)
    (hsource : t.pluginSource = s.pluginSource) (hkinds : t.registry.kinds = s.registry.kinds)
    (hfiles : t.files.list s.pluginSource.directory = s.files.list s.pluginSource.directory) :
    (t.handle r).2 = (s.handle r).2 := by
  have hbuilder := builder_congr hname hhardware (Params.parse r.query)
  rw [handle_of_info t hinfo, handle_of_info s hinfo]
  dsimp only
  rw [hbuilder, infoPage_congr hsource hkinds hfiles]

/-- Whatever else a request for the info page asks for, its answer is the page made of the client as it is
before the directory is asked. No session is opened or closed. Two services give the same answer if they
resolve the client alike, know the same kinds of plugins, and list the same names for the plugins: their
directories, their settings, the makers of plugins and the contents of all files may differ. -/
theorem info_ignores_directory {s : Service σ} {t : Service τ} {r : Request}
    (hinfo : "info" ∈ (Form.decode r.query).map Prod.fst)
    (hname : t.resolver.reverseName r.ip = s.resolver.reverseName r.ip)
    (hhardware : t.resolver.hardwareAddress r.ip = s.resolver.hardwareAddress r.ip)
    (hsource : t.pluginSource = s.pluginSource) (hkinds : t.registry.kinds = s.registry.kinds)
    (hfiles : t.files.list s.pluginSource.directory = s.files.list s.pluginSource.directory) :
    (t.handle r).2 = (s.handle r).2 ∧
    (t.handle r).1 = t ∧ t.opensSession r = false ∧
    (t.handle r).2 =
      t.infoPage (t.builder r.ip (Params.parse r.query)).build (Params.parse r.query) r.headers ∧
    ∀ files : FileTree, files.emptied = t.files.emptied →
      (({ t with files }).handle r).2 = (s.handle r).2 := by
  have hparams : (Params.parse r.query).info = true := (Params.info_parse r.query).mpr hinfo
  have hsame := handle_snd_congr_of_info hparams hname hhardware hsource hkinds hfiles
  refine ⟨hsame, ?_, ?_, ?_, ?_⟩
  · rw [handle_of_info t hparams]
  · simp [opensSession, hparams]
  · rw [handle_of_info t hparams]
  · intro files hfiles'
    have hlist := FileTree.list_congr hfiles' t.pluginSource.directory
    have hcontents : (({ t with files }).handle r).2 = (t.handle r).2 :=
      handle_snd_congr_of_info hparams rfl rfl rfl rfl hlist
    exact hcontents.trans hsame

/-- One directory answers and the other is unreachable; one definition is sound and the other is no
document. -/
theorem info_ignores_directory_of_unreachable :
    let files (text : String) : FileTree :=
      ({} : FileTree).add "plugins/web.yaml" (.file (Utf8.ofString text))
    let s : Service (List Entry) :=
      { settings := { plugins := { directory := "plugins" } }, registry := .builtin
        resolver := .ofAnswers [(.v4 ⟨10, 0, 0, 5⟩, "host1.lab.example")] []
        files := files "kind: directives\n", directory := .ofEntries [{ dn := "cn=gpu" }] }
    let t : Service (List Entry) :=
      { s with
        settings := { plugins := { directory := "plugins" }, ldap := { objectClass := "" } }
        files := files "kind: [", directory := .unreachable "down" }
    let r : Request :=
      { ip := .v4 ⟨10, 0, 0, 5⟩, query := "script=early&%69nfo=0&class=web"
        baseUrl := { scheme := "http", host := some (.name "install.lab.example")
                     path := .segments ["preseed"] } }
    "info" ∈ (Form.decode r.query).map Prod.fst ∧
      t.files.list "plugins" = s.files.list "plugins" ∧
      (t.handle { r with query := "" }).2 = .error (.directory (.connect "down")) ∧
      (t.handle r).2 = (s.handle r).2 ∧
      (t.handle r).2.toOption.map (·.contentType) = some .html := by
  intro files s t r
  have hinfo : "info" ∈ (Form.decode r.query).map Prod.fst := by decide +kernel
  have hfiles : t.files.list "plugins" = s.files.list "plugins" :=
    FileTree.list_congr (by rfl) "plugins"
  have hsame := (@info_ignores_directory _ _ s t r hinfo rfl rfl rfl rfl hfiles).1
  exact ⟨hinfo, hfiles, by rfl, hsame, by decide +kernel⟩

end Service

end Preseed

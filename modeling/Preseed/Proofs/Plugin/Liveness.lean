import Preseed.Proofs.Plugin.Discovery
import Preseed.Proofs.Plugin.Kinds
import Preseed.Proofs.Plugin.Loading

/-! # Loading depends on live definitions

A definition is live if its file can be read and declares a registered kind. Loading makes one plugin for
each of them, in the order of their names, up to the first that is refused; files that are not live have no
part in it, as long as no two files make the same name. -/

namespace Preseed

variable {σ : Type}

/-- The file of a descriptor is a live definition: it holds a text, the text is a definition that declares a
kind, and the kind was registered, in whatever case. -/
def IsLive (given : List (String × Factory σ)) (files : FileTree) (d : Descriptor)
    (live : Live σ) : Prop :=
  ∃ bytes text definition spelling,
    files.readBytes d.path = .ok bytes ∧ Utf8.toString? bytes = some text ∧
      Definition.ofText text = .ok definition ∧ definition.kind = some live.kind ∧
      Registry.lastGiven? given live.kind = some (spelling, live.factory) ∧
      live.name = d.name ∧ live.settings = definition.settings

theorem IsLive.name_eq {given : List (String × Factory σ)} {files : FileTree} {d : Descriptor}
    {live : Live σ} (h : IsLive given files d live) : live.name = d.name := by
  obtain ⟨_, _, _, _, -, -, -, -, -, heq, -⟩ := h
  exact heq

/-- A directory holds a file under a name. One that cannot be listed holds none. -/
def FileTree.HoldsFile (files : FileTree) (directory file : String) : Prop :=
  ∃ items, files.list directory = .ok items ∧ Definition.HasFile items file

theorem FileTree.holdsFile_iff {files : FileTree} {directory : String} {items : List DirItem}
    (h : files.list directory = .ok items) (file : String) :
    files.HoldsFile directory file ↔ Definition.HasFile items file := by
  simp [HoldsFile, h]

theorem FileTree.holdsFile_of_list {files : FileTree} {directory : String} {names : List String}
    (h : files.list directory = .ok (names.map fun name => ⟨Utf8.ofString name, true⟩))
    (file : String) : files.HoldsFile directory file ↔ file ∈ names := by
  rw [holdsFile_iff h, Definition.HasFile, List.mem_map]
  constructor
  · rintro ⟨name, hname, heq⟩
    obtain rfl := Utf8.ofString_inj (congrArg DirItem.name heq)
    exact hname
  · exact fun hfile => ⟨file, hfile, rfl⟩

theorem FileTree.read_eq_ok_iff {files : FileTree} {path text : String} :
    files.read path = .ok text ↔
      ∃ bytes, files.readBytes path = .ok bytes ∧ Utf8.toString? bytes = some text := by
  unfold read
  cases files.readBytes path with
  | error e => simp [bind, Except.bind]
  | ok bytes =>
    cases h : Utf8.toString? bytes with
    | none => simp [bind, Except.bind, h, throw, throwThe, MonadExceptOf.throw]
    | some t => simp [bind, Except.bind, h, pure, Except.pure]

theorem Definition.read_eq_ok_iff {files : FileTree} {path : String} {definition : Definition} :
    Definition.read files path = .ok definition ↔
      ∃ bytes text, files.readBytes path = .ok bytes ∧ Utf8.toString? bytes = some text ∧
        Definition.ofText text = .ok definition := by
  constructor
  · intro h
    unfold Definition.read at h
    split at h
    · rename_i text hread
      obtain ⟨bytes, hbytes, htext⟩ := FileTree.read_eq_ok_iff.mp hread
      exact ⟨bytes, text, hbytes, htext, h⟩
    · cases h
  · rintro ⟨bytes, text, hbytes, htext, hdefinition⟩
    rw [Definition.read, FileTree.read_eq_ok_iff.mpr ⟨bytes, hbytes, htext⟩]
    exact hdefinition

/-- What cannot be read as a definition is not live. -/
theorem not_isLive_of_read {given : List (String × Factory σ)} {files : FileTree} {path : String}
    (h : (Definition.read files path).isOk = false) (name : String) (live : Live σ) :
    ¬ IsLive given files ⟨name, path⟩ live := by
  rintro ⟨bytes, text, definition, -, hbytes, htext, hdefinition, -⟩
  rw [Definition.read_eq_ok_iff.mpr ⟨bytes, text, hbytes, htext, hdefinition⟩] at h
  cases h

namespace Live

/-- The definition's plugin, or the refusal of its factory. -/
def make (session : Session) (client : Client) (live : Live σ) :
    Except PluginError (LoadedPlugin σ) :=
  (live.factory (live.init session client)).map live.load

theorem make_eq_error_iff {session : Session} {client : Client} {live : Live σ} {e : PluginError} :
    live.make session client = .error e ↔
      live.factory (live.init session client) = .error e := by
  unfold make
  cases live.factory (live.init session client) <;> simp [Except.map]

/-- A plugin has the name and the kind of its definition. -/
theorem name_kind_of_make {session : Session} {client : Client} {live : Live σ}
    {plugin : LoadedPlugin σ} (h : live.make session client = .ok plugin) :
    (plugin.name, plugin.kind) = (live.name, live.kind) := by
  unfold make at h
  cases hfactory : live.factory (live.init session client) with
  | error e =>
    rw [hfactory] at h
    cases h
  | ok made =>
    rw [hfactory] at h
    obtain rfl := Except.ok.inj h
    rfl

theorem map_name_kind_of_make {session : Session} {client : Client} {lives : List (Live σ)}
    {loaded : List (LoadedPlugin σ)}
    (h : List.Forall₂ (fun live plugin => live.make session client = .ok plugin) lives loaded) :
    (loaded.map fun plugin => (plugin.name, plugin.kind)) =
      lives.map fun live => (live.name, live.kind) := by
  induction h with
  | nil => rfl
  | cons hmake _ ih => rw [List.map_cons, List.map_cons, name_kind_of_make hmake, ih]

/-- The calls of factories for live definitions, up to the first refusal. -/
def calls (session : Session) (client : Client) : List (Live σ) → List (FactoryCall σ)
  | [] => []
  | live :: rest =>
    match live.make session client with
    | .ok _ => live.call session client :: calls session client rest
    | .error _ => [live.call session client]

/-- Either no factory refuses, or there is a first that does. -/
theorem cases_mapM_make (session : Session) (client : Client) (lives : List (Live σ)) :
    (∃ loaded, lives.mapM (make session client) = .ok loaded ∧
      List.Forall₂ (fun live plugin => live.make session client = .ok plugin) lives loaded ∧
      calls session client lives = lives.map (·.call session client)) ∨
    ∃ made refused later e, lives = made ++ refused :: later ∧
      (∀ live ∈ made, ∃ plugin, live.make session client = .ok plugin) ∧
      refused.make session client = .error e ∧
      lives.mapM (make session client) = .error e ∧
      calls session client lives = (made ++ [refused]).map (·.call session client) := by
  induction lives with
  | nil => exact .inl ⟨[], rfl, .nil, rfl⟩
  | cons live lives ih =>
    rw [List.mapM_cons, calls]
    cases hmake : live.make session client with
    | error e =>
      exact .inr ⟨[], live, lives, e, rfl, by simp, hmake, rfl, rfl⟩
    | ok plugin =>
      rcases ih with ⟨loaded, hloaded, hyields, hcalls⟩ |
        ⟨made, refused, later, e, rfl, hmade, herror, hresult, hcalls⟩
      · rw [hloaded, hcalls]
        exact .inl ⟨plugin :: loaded, rfl, .cons hmake hyields, rfl⟩
      · rw [hresult, hcalls]
        refine .inr ⟨live :: made, refused, later, e, rfl, ?_, herror, rfl, rfl⟩
        rw [List.forall_mem_cons]
        exact ⟨⟨plugin, hmake⟩, hmade⟩

end Live

namespace PluginSource

/-! ## What is loaded from descriptors -/

section

variable (registry : Registry σ) (files : FileTree) (session : Session) (client : Client)

theorem instantiateAll_eq (ds : List Descriptor) :
    instantiateAll registry files session client ds =
      { calls := Live.calls session client (ds.filterMap (live? registry files))
        result := (ds.filterMap (live? registry files)).mapM (Live.make session client) } := by
  induction ds with
  | nil => rfl
  | cons d ds ih =>
    cases hlive : live? registry files d with
    | none => rw [instantiateAll_of_none _ _ _ _ hlive, List.filterMap_cons_none hlive, ih]
    | some live =>
      rw [instantiateAll_of_some _ _ _ _ hlive, List.filterMap_cons_some hlive, List.mapM_cons,
        Live.calls, ih]
      cases hplugin : (live.call session client).result with
      | error e =>
        have hmake : live.make session client = .error e := Live.make_eq_error_iff.mpr hplugin
        rw [Loading.make_of_error hplugin, hmake]
        rfl
      | ok plugin =>
        have hmake : live.make session client = .ok (live.load plugin) :=
          congrArg (Except.map live.load) hplugin
        rw [Loading.make_of_ok hplugin, hmake]
        cases List.mapM (Live.make session client) (ds.filterMap (live? registry files)) <;> rfl

end

variable {given : List (String × Factory σ)} {files files' : FileTree}

theorem live?_eq_some_iff {d : Descriptor} {live : Live σ} :
    live? (Registry.empty.registerAll given) files d = some live ↔ IsLive given files d live := by
  have hfind : ∀ kind, (Registry.empty.registerAll given).find? kind =
      (Registry.lastGiven? given kind).map fun g => ⟨g.1, g.2⟩ := by
    intro kind
    rw [Registry.find?_registerAll]
    exact Option.or_none
  constructor
  · intro h
    unfold live? at h
    split at h
    · cases h
    · rename_i definition hread
      obtain ⟨bytes, text, hbytes, htext, hdefinition⟩ := Definition.read_eq_ok_iff.mp hread
      obtain ⟨kind, hkind, h⟩ := Option.bind_eq_some_iff.mp h
      rw [hfind, Option.map_map] at h
      obtain ⟨⟨spelling, factory⟩, hgiven, rfl⟩ := Option.map_eq_some_iff.mp h
      exact ⟨bytes, text, definition, spelling, hbytes, htext, hdefinition, hkind, hgiven, rfl, rfl⟩
  · rintro ⟨bytes, text, definition, spelling, hbytes, htext, hdefinition, hkind, hgiven, hname,
      hsettings⟩
    rw [live?, Definition.read_eq_ok_iff.mpr ⟨bytes, text, hbytes, htext, hdefinition⟩]
    dsimp only
    rw [hkind, Option.bind_some, hfind, hgiven, ← hname, ← hsettings]
    rfl

/-! ## Live files of a directory -/

section

variable {source : PluginSource} {filter : Option String} {found : List Descriptor}

theorem discover_of_list {items : List DirItem} (h : files.list source.directory = .ok items) :
    source.discover files filter =
      .ok (Definition.ofItems source.directory source.extension filter items) := by
  rw [discover, Definition.discover, h]

/-- What is found in a directory, in the order of names: for each name that is asked for, the least of the
files that make it. -/
theorem mem_of_discover (h : source.discover files filter = .ok found) :
    found.Pairwise (·.name < ·.name) ∧
      ∀ d, d ∈ found ↔ Definition.isWanted filter d.name = true ∧
        ∃ file, IsLeast {file | files.HoldsFile source.directory file ∧
          Definition.Makes source.extension file d.name} file ∧
          d.path = FileTree.join source.directory file := by
  cases hlist : files.list source.directory with
  | ok items =>
    obtain rfl := Except.ok.inj ((discover_of_list hlist).symm.trans h)
    refine ⟨Definition.pairwise_ofItems .., fun d => ?_⟩
    simp only [FileTree.holdsFile_iff hlist, Definition.mem_ofItems]
  | error e =>
    have hnone : ∀ file, ¬ files.HoldsFile source.directory file := by
      simp [FileTree.HoldsFile, hlist]
    rw [discover, Definition.discover, hlist] at h
    cases e with
    | notFound =>
      obtain rfl := Except.ok.inj h
      exact ⟨.nil, by simp [hnone, IsLeast]⟩
    | notADirectory => cases h
    | isADirectory => cases h
    | invalidText => cases h
    | other text => cases h

/-- No two files of the plugin directory make the same name. -/
def NamesApart (source : PluginSource) (files : FileTree) : Prop :=
  ∀ file file' name, files.HoldsFile source.directory file →
    files.HoldsFile source.directory file' → Definition.Makes source.extension file name →
    Definition.Makes source.extension file' name → file = file'

theorem namesApart_of_list {names : List String}
    (h : files.list source.directory = .ok (names.map fun name => ⟨Utf8.ofString name, true⟩))
    (hapart : ∀ file ∈ names, ∀ file' ∈ names, Definition.pluginName? source.extension file =
      Definition.pluginName? source.extension file' → file = file') :
    source.NamesApart files := by
  intro file file' name hfile hfile' hname hname'
  rw [FileTree.holdsFile_of_list h] at hfile hfile'
  rw [← Definition.pluginName?_eq_some_iff] at hname hname'
  exact hapart file hfile file' hfile' (hname.trans hname'.symm)

/-- A file of the plugin directory makes a name that is asked for, and is a live definition. -/
def HoldsLive (source : PluginSource) (given : List (String × Factory σ)) (filter : Option String)
    (files : FileTree) (file : String) (live : Live σ) : Prop :=
  files.HoldsFile source.directory file ∧ Definition.Makes source.extension file live.name ∧
    Definition.isWanted filter live.name = true ∧
    IsLive given files ⟨live.name, FileTree.join source.directory file⟩ live

theorem mem_lives_of_apart (h : source.discover files filter = .ok found)
    (hnames : source.NamesApart files) (live : Live σ) :
    live ∈ found.filterMap (live? (Registry.empty.registerAll given) files) ↔
      ∃ file, source.HoldsLive given filter files file live := by
  simp only [List.mem_filterMap, live?_eq_some_iff, (mem_of_discover h).2]
  constructor
  · rintro ⟨⟨name, path⟩, ⟨hwanted, file, hleast, rfl⟩, hlive⟩
    obtain ⟨hfile, hname⟩ := hleast.1
    obtain rfl : live.name = name := hlive.name_eq
    exact ⟨file, hfile, hname, hwanted, hlive⟩
  · rintro ⟨file, hfile, hname, hwanted, hlive⟩
    refine ⟨⟨live.name, FileTree.join source.directory file⟩,
      ⟨hwanted, file, ⟨⟨hfile, hname⟩, ?_⟩, rfl⟩, hlive⟩
    rintro other ⟨hother, hname'⟩
    exact (hnames file other live.name hfile hother hname hname').le

theorem pairwise_lives (h : source.discover files filter = .ok found) (registry : Registry σ) :
    (found.filterMap (live? registry files)).Pairwise (·.name < ·.name) := by
  rw [List.pairwise_filterMap]
  refine (mem_of_discover h).1.imp ?_
  intro d d' hlt live hlive live' hlive'
  rw [name_eq_of_live? hlive, name_eq_of_live? hlive']
  exact hlt

/-- Each file is the same in both directories, or a live definition in neither. -/
def SameButForDead (source : PluginSource) (given : List (String × Factory σ))
    (filter : Option String) (files files' : FileTree) : Prop :=
  ∀ file,
    ((files.HoldsFile source.directory file ↔ files'.HoldsFile source.directory file) ∧
      files.readBytes (FileTree.join source.directory file) =
        files'.readBytes (FileTree.join source.directory file)) ∨
    ((∀ live, ¬ source.HoldsLive given filter files file live) ∧
      ∀ live, ¬ source.HoldsLive given filter files' file live)

theorem SameButForDead.holdsLive_iff (h : source.SameButForDead given filter files files')
    (file : String) (live : Live σ) :
    source.HoldsLive given filter files file live ↔
      source.HoldsLive given filter files' file live := by
  rcases h file with ⟨hfile, hbytes⟩ | ⟨hdead, hdead'⟩
  · simp only [HoldsLive, IsLive, hfile, hbytes]
  · exact iff_of_false (hdead live) (hdead' live)

/-- The live definitions of two directories are the same if they differ in other files only. -/
theorem lives_congr {found' : List Descriptor} (h : source.discover files filter = .ok found)
    (h' : source.discover files' filter = .ok found') (hnames : source.NamesApart files)
    (hnames' : source.NamesApart files') (hsame : source.SameButForDead given filter files files') :
    found'.filterMap (live? (Registry.empty.registerAll given) files') =
      found.filterMap (live? (Registry.empty.registerAll given) files) := by
  refine Definition.eq_of_mem_iff (·.name) (pairwise_lives h' _) (pairwise_lives h _) fun live => ?_
  simp only [mem_lives_of_apart h hnames, mem_lives_of_apart h' hnames', hsame.holdsLive_iff]

end

/-- What is loaded when discovery succeeds. -/
theorem load_eq_instantiateAll {registry : Registry σ} {source : PluginSource} {files : FileTree}
    {filter : Option String} {found : List Descriptor} (h : source.discover files filter = .ok found)
    (session : Session) (client : Client) :
    source.load registry files filter session client =
      instantiateAll registry files session client found := by
  rw [load, h]

/-- What comes of the definitions that are found. Those that are live are in the order of their names; a
factory is called for each of them, once, up to the first that refuses, and for nothing else. Its refusal is
what loading ends with; if none refuses, there is one plugin for each. In directories whose files make
different names, files that are not live have no part in this. -/
theorem load_of_discover (source : PluginSource) (given : List (String × Factory σ))
    {files : FileTree} {filter : Option String} (session : Session) (client : Client)
    {found : List Descriptor} (hfound : source.discover files filter = .ok found) :
    let registry := Registry.empty.registerAll given
    let lives := found.filterMap (live? registry files)
    let loading := source.load registry files filter session client
    (∀ live, live ∈ lives ↔ ∃ d ∈ found, IsLive given files d live) ∧
    (lives.map (·.name)).Pairwise (· < ·) ∧
    Loads registry files session client found loading.calls loading.result ∧
    ((∃ loaded, loading.result = .ok loaded ∧
        List.Forall₂ (fun live plugin => live.make session client = .ok plugin) lives loaded ∧
        (loaded.map fun plugin => (plugin.name, plugin.kind)) =
          (lives.map fun live => (live.name, live.kind)) ∧
        loading.calls = lives.map (·.call session client)) ∨
      ∃ made refused later e, lives = made ++ refused :: later ∧
        (∀ live ∈ made, ∃ plugin, live.make session client = .ok plugin) ∧
        refused.factory (refused.init session client) = .error e ∧ loading.result = .error e ∧
        loading.calls = (made ++ [refused]).map (·.call session client)) ∧
    ∀ files' found', source.discover files' filter = .ok found' →
      source.NamesApart files → source.NamesApart files' →
      source.SameButForDead given filter files files' →
      source.load registry files' filter session client = loading := by
  intro registry lives loading
  have hloading : loading = { calls := Live.calls session client lives
                              result := lives.mapM (Live.make session client) } :=
    (load_eq_instantiateAll hfound session client).trans (instantiateAll_eq ..)
  refine ⟨fun live => ?_, ?_, ?_, ?_, ?_⟩
  · simp only [lives, List.mem_filterMap, registry, live?_eq_some_iff]
  · exact List.pairwise_map.mpr (pairwise_lives hfound registry)
  · rw [show loading = _ from load_eq_instantiateAll hfound session client]
    exact loads_instantiateAll found
  · rw [hloading]
    rcases Live.cases_mapM_make session client lives with ⟨loaded, hloaded, hmake, hall⟩ |
      ⟨made, refused, later, e, hlives, hmade, herror, hloaded, hsome⟩
    · exact .inl ⟨loaded, hloaded, hmake, Live.map_name_kind_of_make hmake, hall⟩
    · exact .inr ⟨made, refused, later, e, hlives, hmade, Live.make_eq_error_iff.mp herror, hloaded,
        hsome⟩
  · intro files' found' hfound' hnames hnames' hsame
    have hlives := lives_congr hfound hfound' hnames hnames' hsame
    rw [load_eq_instantiateAll hfound', instantiateAll_eq, hlives, hloading]

/-- The settings of a plugin are refused, and a broken file beside it makes no difference. -/
theorem load_of_discover_of_broken :
    let source : PluginSource := { directory := "plugins", extension := "yaml" }
    let given : List (String × Factory Unit) :=
      [("Probe", { make := fun init => .error (.settings init.name "refused") })]
    let whole := ({} : FileTree).add "plugins/beta.yaml" (.file (Utf8.ofString "kind: PROBE\n"))
    let broken := whole.add "plugins/adam.yaml" (.file (Utf8.ofString "kind: [\n"))
    let session := (Directory.ofEntries []).session
    let client := (Client.builder (.v4 ⟨10, 0, 0, 5⟩)).build
    let registry := Registry.empty.registerAll given
    source.discover whole none = .ok [⟨"Beta", "plugins/beta.yaml"⟩] ∧
      ∃ found, source.discover broken none = .ok found ∧
        source.NamesApart whole ∧ source.NamesApart broken ∧
        source.SameButForDead given none whole broken ∧
        (source.load registry broken none session client).result.isOk = false ∧
        (source.load registry broken none session client).calls.map (·.init.name) = ["Beta"] := by
  intro source given whole broken session client registry
  have hlist : whole.list "plugins" =
      .ok (["beta.yaml"].map fun name => ⟨Utf8.ofString name, true⟩) := by
    rfl
  have hlist' : broken.list "plugins" =
      .ok (["adam.yaml", "beta.yaml"].map fun name => ⟨Utf8.ofString name, true⟩) := by
    rfl
  have hnames : source.NamesApart whole := namesApart_of_list hlist (by decide +kernel)
  have hnames' : source.NamesApart broken := namesApart_of_list hlist' (by decide +kernel)
  have hwhole := FileTree.holdsFile_of_list hlist
  have hbroken := FileTree.holdsFile_of_list hlist'
  have hsame : source.SameButForDead given none whole broken := by
    intro file
    by_cases hfile : file = "beta.yaml"
    · subst hfile
      exact .inl ⟨iff_of_true ((hwhole _).mpr (by simp)) ((hbroken _).mpr (by simp)), by decide +kernel⟩
    · refine .inr ⟨fun live hlive => ?_, fun live hlive => ?_⟩
      · exact hfile (List.mem_singleton.mp ((hwhole file).mp hlive.1))
      · obtain rfl : file = "adam.yaml" := by simpa [hfile] using (hbroken file).mp hlive.1
        exact not_isLive_of_read (by decide +kernel) live.name live hlive.2.2.2
  have hfound : source.discover whole none = .ok [⟨"Beta", "plugins/beta.yaml"⟩] := by
    decide +kernel
  have hfound' : source.discover broken none = .ok _ := discover_of_list hlist'
  obtain ⟨-, -, -, -, hcongr⟩ := load_of_discover source given session client hfound
  refine ⟨hfound, _, hfound', hnames, hnames', hsame, ?_⟩
  rw [hcongr broken _ hfound' hnames hnames' hsame]
  exact ⟨by decide +kernel, by decide +kernel⟩

end PluginSource

end Preseed

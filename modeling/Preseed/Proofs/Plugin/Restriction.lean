import Mathlib.Data.Set.Subsingleton
import Preseed.Proofs.Plugin.Liveness
import Preseed.Proofs.Record.Fields

/-! # Loading one plugin

A request may ask for one plugin by its name, in any case. Files whose names differ in case make different
plugins, though, so that more than one may bear the name; there is at most one exactly if all files that make
the name spell it alike. -/

namespace Preseed

variable {σ : Type}

namespace PluginSource

/-- The spellings of a name that files of the plugin directory make. -/
def madeNames (source : PluginSource) (files : FileTree) (wanted : String) : Set String :=
  {name | Ascii.eqIgnoreCase wanted name = true ∧
    ∃ file, files.HoldsFile source.directory file ∧ Definition.Makes source.extension file name}

/-- The spellings of a name whose least file is a live definition. -/
def liveNames (source : PluginSource) (given : List (String × Factory σ)) (files : FileTree)
    (wanted : String) : Set String :=
  {name | Ascii.eqIgnoreCase wanted name = true ∧
    ∃ file, IsLeast {file | files.HoldsFile source.directory file ∧
      Definition.Makes source.extension file name} file ∧
      ∃ live, IsLive given files ⟨name, FileTree.join source.directory file⟩ live}

variable {source : PluginSource} {files : FileTree} {wanted : String}

theorem liveNames_subset (given : List (String × Factory σ)) :
    source.liveNames given files wanted ⊆ source.madeNames files wanted :=
  fun _ ⟨hname, file, hleast, _⟩ => ⟨hname, file, hleast.1⟩

/-- A list with each of some names once has at most one member if and only if there is no second name. -/
theorem length_le_one_iff {α : Type} {l : List α} {name : α → String} {names : Set String}
    (h : (l.map name).Nodup) (hmem : ∀ n, n ∈ l.map name ↔ n ∈ names) :
    l.length ≤ 1 ↔ names.Subsingleton := by
  cases l with
  | nil =>
      refine iff_of_true (Nat.zero_le 1) fun n hn => ?_
      exact absurd ((hmem n).mpr hn) List.not_mem_nil
  | cons a l =>
      cases l with
      | nil =>
          refine iff_of_true le_rfl fun n hn m hm => ?_
          rw [List.mem_singleton.mp ((hmem n).mpr hn), List.mem_singleton.mp ((hmem m).mpr hm)]
      | cons b l =>
          refine iff_of_false (by simp) fun hall => ?_
          have heq : name a = name b := hall ((hmem _).mp (by simp)) ((hmem _).mp (by simp))
          exact (List.nodup_cons.mp h).1 (heq ▸ List.mem_cons_self)

theorem nodup_map_of_pairwise {α : Type} {l : List α} {name : α → String}
    (h : l.Pairwise (name · < name ·)) : (l.map name).Nodup :=
  List.pairwise_map.mpr (h.imp fun hlt => hlt.ne)

/-! ## What bears the name -/

section

variable {found : List Descriptor}

/-- Every spelling that a file makes is found. -/
theorem mem_names_of_discover (h : source.discover files (some wanted) = .ok found) {name : String} :
    name ∈ found.map (·.name) ↔ name ∈ source.madeNames files wanted := by
  cases hlist : files.list source.directory with
  | ok items =>
      obtain rfl := Except.ok.inj ((discover_of_list hlist).symm.trans h)
      rw [Definition.mem_names_ofItems, and_comm]
      simp only [madeNames, FileTree.holdsFile_iff hlist]
      exact Iff.rfl
  | error e =>
      have hnone : ∀ file, ¬ files.HoldsFile source.directory file := by
        simp [FileTree.HoldsFile, hlist]
      constructor
      · intro hmem
        obtain ⟨d, hd, -⟩ := List.mem_map.mp hmem
        obtain ⟨-, file, hleast, -⟩ := ((mem_of_discover h).2 d).mp hd
        exact absurd hleast.1.1 (hnone file)
      · rintro ⟨-, file, hfile, -⟩
        exact absurd hfile (hnone file)

/-- Every spelling whose least file is live names a definition that is made a plugin of. -/
theorem mem_names_of_lives (h : source.discover files (some wanted) = .ok found)
    (given : List (String × Factory σ)) {name : String} :
    name ∈ (found.filterMap (live? (Registry.empty.registerAll given) files)).map (·.name) ↔
      name ∈ source.liveNames given files wanted := by
  simp only [List.mem_map, List.mem_filterMap, live?_eq_some_iff, (mem_of_discover h).2]
  constructor
  · rintro ⟨live, ⟨⟨dname, path⟩, ⟨hwanted, file, hleast, rfl⟩, hlive⟩, rfl⟩
    obtain rfl : live.name = dname := hlive.name_eq
    exact ⟨hwanted, file, hleast, live, hlive⟩
  · rintro ⟨hwanted, file, hleast, live, hlive⟩
    exact ⟨live, ⟨⟨name, FileTree.join source.directory file⟩, ⟨hwanted, file, hleast, rfl⟩, hlive⟩,
      hlive.name_eq⟩

/-- Plugins that are loaded have the names of the live definitions that were found. -/
theorem names_of_load {filter : Option String} {registry : Registry σ} {session : Session}
    {client : Client} {loaded : List (LoadedPlugin σ)}
    (h : (source.load registry files filter session client).result = .ok loaded) :
    ∃ found, source.discover files filter = .ok found ∧
      loaded.map (·.name) = (found.filterMap (live? registry files)).map (·.name) := by
  cases hfound : source.discover files filter with
  | error e =>
      rw [load, hfound] at h
      cases h
  | ok found =>
      rw [load_eq_instantiateAll hfound, instantiateAll_eq] at h
      refine ⟨found, rfl, ?_⟩
      rcases Live.cases_mapM_make session client (found.filterMap (live? registry files)) with
        ⟨all, hall, hmake, -⟩ | ⟨_, _, _, e, -, -, -, herror, -⟩
      · obtain rfl := Except.ok.inj (hall.symm.trans h)
        have hnames := congrArg (List.map Prod.fst) (Live.map_name_kind_of_make hmake)
        rwa [List.map_map, List.map_map] at hnames
      · exact absurd (herror.symm.trans h) (by simp)

end

/-- What is found among files that are listed in order, if their plugins are in order. -/
theorem discover_of_ascending {filter : Option String} {names : List String} {found : List Descriptor}
    (hlist : files.list source.directory =
      .ok (names.map fun name => ⟨Utf8.ofString name, true⟩))
    (hnames : names.Pairwise (· ≤ ·))
    (hcollect : Definition.collect source.directory source.extension filter names [] = found)
    (hfound : found.Pairwise (·.name ≤ ·.name)) : source.discover files filter = .ok found := by
  rw [discover_of_list hlist, Definition.ofItems_of_ascending hnames hcollect hfound]

/-- Asked for a name, discovery finds exactly the spellings of it that files make, so it finds at most one
plugin if and only if they spell it alike. Loading makes plugins of those spellings whose least file is a live
definition, so it makes at most one if and only if there is no second such spelling. -/
theorem restricted_to_spellings (source : PluginSource) (files : FileTree) (wanted : String) :
    (∀ found, source.discover files (some wanted) = .ok found →
      (∀ name, name ∈ found.map (·.name) ↔ name ∈ source.madeNames files wanted) ∧
      (found.length ≤ 1 ↔ (source.madeNames files wanted).Subsingleton)) ∧
    ∀ (given : List (String × Factory σ)) (session : Session) (client : Client) loaded,
      (source.load (Registry.empty.registerAll given) files (some wanted) session client).result =
        .ok loaded →
      (∀ name, name ∈ loaded.map (·.name) ↔ name ∈ source.liveNames given files wanted) ∧
      (loaded.length ≤ 1 ↔ (source.liveNames given files wanted).Subsingleton) ∧
      source.liveNames given files wanted ⊆ source.madeNames files wanted := by
  refine ⟨fun found hfound => ?_, fun given session client loaded hloaded => ?_⟩
  · have hmem : ∀ name, name ∈ found.map (·.name) ↔ name ∈ source.madeNames files wanted :=
      fun name => mem_names_of_discover hfound
    exact ⟨hmem, length_le_one_iff (nodup_map_of_pairwise (mem_of_discover hfound).1) hmem⟩
  · obtain ⟨found, hfound, hnames⟩ := names_of_load hloaded
    have hmem : ∀ name, name ∈ loaded.map (·.name) ↔ name ∈ source.liveNames given files wanted :=
      fun name => by rw [hnames, mem_names_of_lives hfound]
    have hnodup : (loaded.map (·.name)).Nodup :=
      hnames ▸ nodup_map_of_pairwise (pairwise_lives hfound _)
    exact ⟨hmem, length_le_one_iff hnodup hmem, liveNames_subset given⟩

/-- Of two spellings that are found one is live. -/
theorem restricted_to_spellings_of_case :
    let source : PluginSource := { directory := "plugins", extension := "yaml" }
    let given : List (String × Factory Unit) :=
      [("Probe", { make := fun _ => .ok { state := (), call := fun _ _ _ => { state := () } } })]
    let files := (({} : FileTree).add "plugins/foobar.yaml" (.file (Utf8.ofString "kind: Mirror\n"))).add
      "plugins/fooBar.yaml" (.file (Utf8.ofString "kind: probe\n"))
    let registry := Registry.empty.registerAll given
    let session := (Directory.ofEntries []).session
    let client := (Client.builder (.v4 ⟨10, 0, 0, 5⟩)).build
    ∃ found loaded, source.discover files (some "FOOBAR") = .ok found ∧
      (source.load registry files (some "FOOBAR") session client).result = .ok loaded ∧
      found.map (·.name) = ["FooBar", "Foobar"] ∧ loaded.map (·.name) = ["FooBar"] ∧
      ¬ (source.madeNames files "FOOBAR").Subsingleton ∧
      (source.liveNames given files "FOOBAR").Subsingleton := by
  intro source given files registry session client
  have hlist : files.list "plugins" =
      .ok (["fooBar.yaml", "foobar.yaml"].map fun name => ⟨Utf8.ofString name, true⟩) := by
    rfl
  have hfound : source.discover files (some "FOOBAR") =
      .ok [⟨"FooBar", "plugins/fooBar.yaml"⟩, ⟨"Foobar", "plugins/foobar.yaml"⟩] :=
    discover_of_ascending hlist (by decide +kernel) (by decide +kernel) (by decide +kernel)
  have hnames : (source.load registry files (some "FOOBAR") session client).result.toOption.map
      (·.map (·.name)) = some ["FooBar"] := by
    rw [load, hfound]
    decide +kernel
  obtain ⟨loaded, hloaded, hname⟩ := Option.map_eq_some_iff.mp hnames
  have hloaded := eq_ok_of_toOption hloaded
  have hone : loaded.length = 1 := by
    rw [← List.length_map (f := (·.name)), hname]
    rfl
  obtain ⟨hdiscover, hload⟩ := restricted_to_spellings source files "FOOBAR"
  refine ⟨_, loaded, hfound, hloaded, rfl, hname, ?_, ?_⟩
  · exact fun h => absurd ((hdiscover _ hfound).2.mpr h) (by decide)
  · exact (hload given session client loaded hloaded).2.1.mp hone.le

/-- Files of one name in two spellings make two plugins, and both are loaded. -/
theorem not_restricted_to_one :
    (¬ ∀ (source : PluginSource) (files : FileTree) (wanted : String) (found : List Descriptor),
      source.discover files (some wanted) = .ok found → found.length ≤ 1) ∧
    ¬ ∀ (source : PluginSource) (files : FileTree) (wanted : String) (session : Session)
      (client : Client) (loaded : List (LoadedPlugin (List Entry))),
      (source.load Registry.builtin files (some wanted) session client).result = .ok loaded →
        loaded.length ≤ 1 := by
  let source : PluginSource := { directory := "plugins", extension := "yaml" }
  let files := (({} : FileTree).add "plugins/foobar.yaml" (.file (Utf8.ofString "kind: Netcfg\n"))).add
    "plugins/fooBar.yaml" (.file (Utf8.ofString "kind: Directives\n"))
  have hlist : files.list "plugins" =
      .ok (["fooBar.yaml", "foobar.yaml"].map fun name => ⟨Utf8.ofString name, true⟩) := by
    rfl
  have hfound : source.discover files (some "foobar") =
      .ok [⟨"FooBar", "plugins/fooBar.yaml"⟩, ⟨"Foobar", "plugins/foobar.yaml"⟩] :=
    discover_of_ascending hlist (by decide +kernel) (by decide +kernel) (by decide +kernel)
  refine ⟨fun h => absurd (h source files "foobar" _ hfound) (by decide), fun h => ?_⟩
  let session := (Directory.ofEntries []).session
  let client := (Client.builder (.v4 ⟨10, 0, 0, 5⟩)).build
  have hlength : (source.load Registry.builtin files (some "foobar") session client).result.toOption.map
      (·.length) = some 2 := by
    rw [load, hfound]
    decide +kernel
  obtain ⟨loaded, hloaded, htwo⟩ := Option.map_eq_some_iff.mp hlength
  have hle := h source files "foobar" session client loaded (eq_ok_of_toOption hloaded)
  omega

end PluginSource

end Preseed

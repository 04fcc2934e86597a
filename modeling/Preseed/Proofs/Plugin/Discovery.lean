import Mathlib.Data.List.Sort
import Mathlib.Data.String.Basic
import Mathlib.Order.Bounds.Basic
import Preseed.Plugin.Load
import Preseed.Proofs.Text.Split
import Preseed.Proofs.Text.Utf8

/-! # The plugins that a directory defines

Different files may make the same name, as those of `locale.yaml` and `Locale.yaml`. Files are gone through
in ascending order, so the least of them defines the plugin; the order in which the directory lists its items
has no part in it. -/

namespace Preseed.Definition

/-! ## Names -/

/-- A file name makes a plugin's name: behind a stem without dots stand a dot and the extension, and the
name is the stem with the capital form of its first character. -/
def Makes (extension file name : String) : Prop :=
  ∃ first rest, '.' ∉ first :: rest ∧ file.toList = first :: rest ++ '.' :: extension.toList ∧
    name.toList = Uppercase.ofChar first ++ rest

theorem pluginName?_eq_some_iff {extension file name : String} :
    pluginName? extension file = some name ↔ Makes extension file name := by
  rw [pluginName?, Option.map_eq_some_iff]
  constructor
  · rintro ⟨cs, hcs, rfl⟩
    unfold nameChars? at hcs
    split at hcs
    · rename_i first rest ext hcut
      split at hcs
      · rename_i hext
        obtain ⟨hfile, hdot⟩ := Split.cut?_eq_some_iff.mp hcut
        refine ⟨first, rest, hdot, by rw [hfile, hext], ?_⟩
        rw [String.toList_ofList, Option.some.inj hcs]
      · cases hcs
    · cases hcs
  · rintro ⟨first, rest, hdot, hfile, hname⟩
    refine ⟨name.toList, ?_, String.ofList_toList⟩
    rw [nameChars?, hfile, Split.cut?_append _ hdot, hname]
    simp

/-- The items have a file whose name is this text. -/
def HasFile (items : List DirItem) (file : String) : Prop :=
  { name := Utf8.ofString file, isFile := true } ∈ items

theorem mem_fileNames {items : List DirItem} {file : String} :
    file ∈ fileNames items ↔ HasFile items file := by
  rw [fileNames, List.mem_mergeSort, List.mem_filterMap]
  constructor
  · rintro ⟨i, hi, hfile⟩
    split at hfile
    · rename_i hisFile
      obtain ⟨name, isFile⟩ := i
      rw [Utf8.toString?_eq_some_iff] at hfile
      subst hfile hisFile
      exact hi
    · cases hfile
  · intro h
    exact ⟨_, h, by rw [if_pos rfl, Utf8.toString?_eq_some_iff]⟩

/-- Sorting by a text leaves the texts in ascending order. -/
theorem pairwise_mergeSort {α : Type} (key : α → String) (l : List α) :
    (l.mergeSort fun a b => decide (key a ≤ key b)).Pairwise (key · ≤ key ·) := by
  let le (a b : α) : Bool := decide (key a ≤ key b)
  have htrans : ∀ a b c, le a b → le b c → le a c := by
    intro a b c hab hbc
    exact decide_eq_true (le_trans (of_decide_eq_true hab) (of_decide_eq_true hbc))
  have htotal : ∀ a b, le a b || le b a := by
    intro a b
    simpa [le] using le_total (key a) (key b)
  exact (List.pairwise_mergeSort htrans htotal l).imp of_decide_eq_true

theorem pairwise_fileNames (items : List DirItem) : (fileNames items).Pairwise (· ≤ ·) :=
  pairwise_mergeSort id _

/-! ## Collecting -/

/-- The first of the files that make a name. -/
def firstFile? (extension : String) (files : List String) (name : String) : Option String :=
  files.find? fun file => decide (pluginName? extension file = some name)

theorem firstFile?_cons_of_eq {extension name file : String} {files : List String}
    (h : pluginName? extension file = some name) :
    firstFile? extension (file :: files) name = some file :=
  List.find?_cons_of_pos (decide_eq_true h)

theorem firstFile?_cons_of_ne {extension name file : String} {files : List String}
    (h : pluginName? extension file ≠ some name) :
    firstFile? extension (file :: files) name = firstFile? extension files name :=
  List.find?_cons_of_neg (by simpa using h)

/-- Among ascending files the first that makes a name is the least that does. -/
theorem firstFile?_eq_some_iff {extension name file : String} {files : List String}
    (h : files.Pairwise (· ≤ ·)) :
    firstFile? extension files name = some file ↔
      IsLeast {file | file ∈ files ∧ Makes extension file name} file := by
  induction files with
  | nil => simp [firstFile?, IsLeast]
  | cons f files ih =>
    obtain ⟨hle, hpair⟩ := List.pairwise_cons.mp h
    by_cases hf : pluginName? extension f = some name
    · have hleast : IsLeast {file | file ∈ f :: files ∧ Makes extension file name} f := by
        refine ⟨⟨List.mem_cons_self, pluginName?_eq_some_iff.mp hf⟩, ?_⟩
        rintro g ⟨hg, -⟩
        rcases List.mem_cons.mp hg with rfl | hg
        · exact le_rfl
        · exact hle g hg
      rw [firstFile?_cons_of_eq hf, Option.some.injEq]
      exact ⟨fun e => e ▸ hleast, fun hl => hleast.unique hl⟩
    · have hset : {file | file ∈ f :: files ∧ Makes extension file name} =
          {file | file ∈ files ∧ Makes extension file name} := by
        ext g
        constructor
        · rintro ⟨hg, hname⟩
          rcases List.mem_cons.mp hg with rfl | hg
          · exact absurd (pluginName?_eq_some_iff.mpr hname) hf
          · exact ⟨hg, hname⟩
        · exact fun ⟨hg, hname⟩ => ⟨List.mem_cons_of_mem f hg, hname⟩
      rw [firstFile?_cons_of_ne hf, hset, ih hpair]

theorem skip_iff {filter : Option String} {name : String} {found : List Descriptor} :
    (!isWanted filter name || found.any (·.name == name)) = true ↔
      (isWanted filter name = true → name ∈ found.map (·.name)) := by
  cases isWanted filter name <;> simp

/-- What is collected behind what was found: of each new name that is asked for, its first file. -/
theorem mem_collect {directory extension : String} {filter : Option String} {d : Descriptor}
    {files : List String} {found : List Descriptor} :
    d ∈ collect directory extension filter files found ↔
      d ∈ found ∨ (d.name ∉ found.map (·.name) ∧ isWanted filter d.name = true ∧
        ∃ file, firstFile? extension files d.name = some file ∧
          d.path = FileTree.join directory file) := by
  induction files generalizing found with
  | nil => simp [collect, firstFile?]
  | cons f files ih =>
    -- A file without a name is passed over; else it matters whether the name is that of `d`.
    cases hf : pluginName? extension f with
    | none =>
      rw [collect, hf, ih, firstFile?_cons_of_ne (by simp [hf])]
    | some name =>
      simp only [collect, hf, skip_iff]
      by_cases hd : name = d.name
      · subst hd
        rw [firstFile?_cons_of_eq hf]
        split
        · rename_i hskip
          -- The name is not asked for or is taken, so that a later file does not count either.
          rw [ih]
          exact or_congr_right
            ⟨fun ⟨hnew, hwanted, _⟩ => absurd (hskip hwanted) hnew,
              fun ⟨hnew, hwanted, _⟩ => absurd (hskip hwanted) hnew⟩
        · rename_i htake
          obtain ⟨hwanted, hnew⟩ := Classical.not_imp.mp htake
          have hthis : d = ⟨d.name, FileTree.join directory f⟩ ↔
              d.path = FileTree.join directory f := by
            cases d
            simp
          simp [ih, hthis, hwanted, hnew, or_comm]
      · have hother : d ≠ ⟨name, FileTree.join directory f⟩ := by
          rintro rfl
          exact hd rfl
        rw [firstFile?_cons_of_ne (by simpa [hf] using hd)]
        split
        · exact ih
        · simp [ih, hother, Ne.symm hd]

theorem nodup_collect {directory extension : String} {filter : Option String}
    {files : List String} {found : List Descriptor} (h : (found.map (·.name)).Nodup) :
    ((collect directory extension filter files found).map (·.name)).Nodup := by
  induction files generalizing found with
  | nil => simpa [collect] using h
  | cons f files ih =>
    cases hf : pluginName? extension f with
    | none => simpa only [collect, hf] using ih h
    | some name =>
      simp only [collect, hf, skip_iff]
      split
      · exact ih h
      · rename_i htake
        exact ih (List.nodup_cons.mpr ⟨(Classical.not_imp.mp htake).2, h⟩)

/-! ## The plugins in order -/

theorem isWanted_iff {filter : Option String} {name : String} :
    isWanted filter name = true ↔
      ∀ wanted ∈ filter, Ascii.lower wanted = Ascii.lower name := by
  cases filter <;> simp [isWanted, Ascii.eqIgnoreCase]

/-- The least file that makes a plugin's name defines the plugin. -/
theorem mem_ofItems {directory extension : String} {filter : Option String} {items : List DirItem}
    {d : Descriptor} :
    d ∈ ofItems directory extension filter items ↔
      isWanted filter d.name = true ∧
        ∃ file, IsLeast {file | HasFile items file ∧ Makes extension file d.name} file ∧
          d.path = FileTree.join directory file := by
  rw [ofItems, List.mem_mergeSort, mem_collect]
  simp [firstFile?_eq_some_iff (pairwise_fileNames items), mem_fileNames]

theorem pairwise_ofItems (directory extension : String) (filter : Option String)
    (items : List DirItem) :
    (ofItems directory extension filter items).Pairwise (·.name < ·.name) := by
  let found := collect directory extension filter (fileNames items) []
  have hle : (ofItems directory extension filter items).Pairwise (·.name ≤ ·.name) :=
    pairwise_mergeSort (·.name) found
  have hfound : (found.map (·.name)).Nodup := nodup_collect (by simp)
  have hperm : ((ofItems directory extension filter items).map (·.name)).Perm
      (found.map (·.name)) := (List.mergeSort_perm found _).map _
  have hne : (ofItems directory extension filter items).Pairwise (·.name ≠ ·.name) :=
    List.pairwise_map.mp (hperm.nodup_iff.mpr hfound)
  exact hle.imp₂ (fun _ _ => lt_of_le_of_ne) hne

/-- Lists in the order of a name that no two members share are told by their members. -/
theorem eq_of_mem_iff {α : Type} (name : α → String) {l l' : List α}
    (h : l.Pairwise (name · < name ·)) (h' : l'.Pairwise (name · < name ·))
    (hmem : ∀ a, a ∈ l ↔ a ∈ l') : l = l' := by
  have : Std.Irrefl fun a b : α => name a < name b := ⟨fun a => lt_irrefl (name a)⟩
  have : Std.Antisymm fun a b : α => name a < name b :=
    ⟨fun a b hab hba => absurd hba hab.asymm⟩
  exact List.Pairwise.eq_of_mem_iff h h' hmem

/-- A name that a file makes has a least file that makes it. -/
theorem exists_isLeast {extension name : String} {items : List DirItem}
    (h : ∃ file, HasFile items file ∧ Makes extension file name) :
    ∃ file, IsLeast {file | HasFile items file ∧ Makes extension file name} file := by
  obtain ⟨file, hfile, hname⟩ := h
  have hsome : (firstFile? extension (fileNames items) name).isSome := by
    rw [firstFile?, List.find?_isSome]
    exact ⟨file, mem_fileNames.mpr hfile, decide_eq_true (pluginName?_eq_some_iff.mpr hname)⟩
  obtain ⟨least, hleast⟩ := Option.isSome_iff_exists.mp hsome
  rw [firstFile?_eq_some_iff (pairwise_fileNames items)] at hleast
  simp only [mem_fileNames] at hleast
  exact ⟨least, hleast⟩

/-- The names of the plugins are those that files make, as far as they are asked for. -/
theorem mem_names_ofItems {directory extension name : String} {filter : Option String}
    {items : List DirItem} :
    name ∈ (ofItems directory extension filter items).map (·.name) ↔
      (∃ file, HasFile items file ∧ Makes extension file name) ∧ isWanted filter name = true := by
  rw [List.mem_map]
  constructor
  · rintro ⟨d, hd, rfl⟩
    obtain ⟨hwanted, file, hleast, -⟩ := mem_ofItems.mp hd
    exact ⟨⟨file, hleast.1⟩, hwanted⟩
  · rintro ⟨hfile, hwanted⟩
    obtain ⟨least, hleast⟩ := exists_isLeast hfile
    exact ⟨⟨name, FileTree.join directory least⟩, mem_ofItems.mpr ⟨hwanted, least, hleast, rfl⟩, rfl⟩

theorem ofItems_perm {directory extension : String} {filter : Option String}
    {items items' : List DirItem} (h : items'.Perm items) :
    ofItems directory extension filter items' = ofItems directory extension filter items := by
  refine eq_of_mem_iff (·.name) (pairwise_ofItems ..) (pairwise_ofItems ..) fun d => ?_
  simp only [mem_ofItems, HasFile, h.mem_iff]

theorem ofItems_filter (directory extension : String) (filter : Option String)
    (items : List DirItem) :
    ofItems directory extension filter items =
      (ofItems directory extension none items).filter (isWanted filter ·.name) := by
  refine eq_of_mem_iff (·.name) (pairwise_ofItems ..) ((pairwise_ofItems ..).filter _) fun d => ?_
  have hall : isWanted none d.name = true := rfl
  simp only [List.mem_filter, mem_ofItems, hall, true_and, and_comm]

/-- What is found among files that are listed in order, if their plugins are in order. -/
theorem ofItems_of_ascending {directory extension : String} {filter : Option String} {names : List String}
    {found : List Descriptor} (hnames : names.Pairwise (· ≤ ·))
    (hcollect : collect directory extension filter names [] = found)
    (hfound : found.Pairwise (·.name ≤ ·.name)) :
    ofItems directory extension filter (names.map fun name => ⟨Utf8.ofString name, true⟩) = found := by
  have htexts : (names.map fun name => (⟨Utf8.ofString name, true⟩ : DirItem)).filterMap
      (fun i => if i.isFile then Utf8.toString? i.name else none) = names := by
    rw [List.filterMap_map]
    refine (List.filterMap_congr fun name _ => ?_).trans List.filterMap_some
    exact Utf8.toString?_eq_some_iff.mpr rfl
  have hfiles : fileNames (names.map fun name => ⟨Utf8.ofString name, true⟩) = names := by
    rw [fileNames, htexts]
    exact List.mergeSort_of_pairwise (hnames.imp decide_eq_true)
  rw [ofItems, hfiles, hcollect]
  exact List.mergeSort_of_pairwise (hfound.imp decide_eq_true)

/-- What is found in a directory, whatever its items: the names ascend; they are those that files make, as
far as they are asked for; the least file that makes a name defines its plugin. The order of the items does
not count, and asking for a name picks from what is there. -/
theorem found_by_least_files (source : PluginSource) (filter : Option String)
    (items : List DirItem) :
    let found := ofItems source.directory source.extension filter items
    (∀ files : FileTree, files.list source.directory = .ok items →
      source.discover files filter = .ok found) ∧
    (found.map (·.name)).Pairwise (· < ·) ∧
    (∀ name, name ∈ found.map (·.name) ↔
      (∃ file, HasFile items file ∧ Makes source.extension file name) ∧
        ∀ wanted ∈ filter, Ascii.lower wanted = Ascii.lower name) ∧
    (∀ d ∈ found, ∃ file,
      IsLeast {file | HasFile items file ∧ Makes source.extension file d.name} file ∧
        d.path = FileTree.join source.directory file) ∧
    (∀ items' : List DirItem, items'.Perm items →
      ofItems source.directory source.extension filter items' = found) ∧
    found = (ofItems source.directory source.extension none items).filter
      fun d => isWanted filter d.name := by
  refine ⟨fun files hlist => ?_, List.pairwise_map.mpr (pairwise_ofItems ..), fun name => ?_,
    fun d hd => (mem_ofItems.mp hd).2, fun items' => ofItems_perm, ofItems_filter ..⟩
  · rw [PluginSource.discover, discover, hlist]
  · rw [mem_names_ofItems, isWanted_iff]

/-- Two files that make one name, listed in either order. -/
theorem found_by_least_files_of_two_spellings :
    let source : PluginSource := { directory := "plugins", extension := "yaml" }
    let files := (({} : FileTree).add "plugins/locale.yaml" (.file [])).add "plugins/Locale.yaml" (.file [])
    let items : List DirItem := ["Locale.yaml", "locale.yaml"].map fun name => ⟨Utf8.ofString name, true⟩
    let found : List Descriptor := [⟨"Locale", "plugins/Locale.yaml"⟩]
    source.discover files (some "LOCALE") = .ok found ∧
    ofItems "plugins" "yaml" (some "LOCALE") items.reverse = found ∧
    (∃ file, IsLeast {file | HasFile items file ∧ Makes "yaml" file "Locale"} file ∧
      "plugins/Locale.yaml" = FileTree.join "plugins" file) := by
  intro source files items found
  have hfound : ofItems "plugins" "yaml" (some "LOCALE") items = found :=
    ofItems_of_ascending (by decide +kernel) (by decide +kernel) (by decide +kernel)
  obtain ⟨hdiscover, -, -, hleast, hperm, -⟩ := found_by_least_files source (some "LOCALE") items
  rw [hfound] at hdiscover hleast hperm
  have hlist : files.list "plugins" = .ok items := by
    rfl
  exact ⟨hdiscover files hlist, hperm items.reverse (List.reverse_perm items),
    hleast ⟨"Locale", "plugins/Locale.yaml"⟩ (by decide)⟩

end Preseed.Definition

import Preseed.Proofs.Settings.Nodes
import Preseed.Proofs.Text.Utf8
import Preseed.Settings.Load

/-! # Loaded settings

Settings are loaded from a file by what its scalars mean, and read from its text as they are written. Both
are the same if and only if every scalar that is a setting is kept. -/

namespace Preseed

open RawSetting (SameNode SameEntries)
open Yaml (Field)

/-! ## One setting -/

theorem SettingKind.eq_iff_keeps {kind : SettingKind} {f : Field} {r : RawSetting} {x y : SettingValue}
    (h : SameNode f r) (hx : kind.read f = .ok x) (hy : kind.read (r.laid none) = .ok y) :
    x = y ↔ ∀ w ∈ f.written?, kind.Keeps w := by
  rcases kind.writes_of_read hx with ⟨p, style, t, hf, hwrites⟩ | ⟨hnone, rfl, rfl⟩
  · have hstands := RawSetting.ofScalar?_eq_some_iff.mp (h.ofScalar? hf)
    -- Only tables are laid over what is there, and no scalar is one.
    have hlaid : r.laid none = r := by cases hstands.means <;> rfl
    rw [hlaid] at hy
    rw [Field.written?_of_target hf, kind.eq_iff_keepsAs hwrites hstands.means hy, ← kind.keeps_iff hstands]
    constructor
    · intro hkeeps w hw
      rwa [← Option.some.inj hw]
    · exact fun hkeeps => hkeeps _ rfl
  · rcases h.target with ⟨depth, n, hn, -⟩ | ⟨-, rfl⟩
    · cases hnone.symm.trans hn
    · refine iff_of_true (Except.ok.inj hy) fun w hw => ?_
      cases hnone.symm.trans (Field.target_of_written? hw)

namespace Settings

/-- The scalar that a document has for a setting. -/
def written? (d : Yaml.Document) (inside name : String) : Option Yaml.Written :=
  (((Field.ofDocument d).get? inside).bind (·.get? name)).bind Field.written?

/-- No key is the name of a section or a setting in small letters or by its path alone. -/
def SpelledOut (d : Yaml.Document) : Prop :=
  (∀ key ∈ (Field.ofDocument d).keys, RawSetting.topName key ∈ shape.names →
    RawSetting.topName key = key) ∧
  ∀ inside ∈ shape.names, ∀ f ∈ (Field.ofDocument d).get? inside, ∀ key ∈ f.keys,
    RawSetting.lowerName key ∈ (sectionShape inside).names → RawSetting.lowerName key = key

instance (d : Yaml.Document) : Decidable (SpelledOut d) :=
  inferInstanceAs (Decidable (_ ∧ _))

/-- Every scalar that is a setting is kept. -/
def Kept (d : Yaml.Document) : Prop :=
  ∀ inside ∈ shape.names, ∀ name ∈ (sectionShape inside).names,
    ∀ w ∈ written? d inside name, (kind inside name).Keeps w

instance (d : Yaml.Document) : Decidable (Kept d) :=
  inferInstanceAs (Decidable (∀ inside ∈ shape.names, ∀ name ∈ (sectionShape inside).names,
    ∀ w ∈ written? d inside name, (kind inside name).Keeps w))

/-! ## One section -/

theorem section_eq_iff {inside name : String} (hname : IsName inside name) {f : Field} {r : RawSetting}
    (h : SameNode f r) {values values' : String → SettingValue} (hf : HasSection inside f values)
    (hr : HasSection inside (r.laid none) values')
    (hspelled : ∀ key ∈ f.keys, RawSetting.lowerName key ∈ (sectionShape inside).names →
      RawSetting.lowerName key = key) :
    values name = values' name ↔
      ∀ w ∈ (f.get? name).bind Field.written?, (kind inside name).Keeps w := by
  obtain ⟨given, hgiven, hnames, hreads⟩ := hf
  obtain ⟨given', hgiven', -, hreads'⟩ := hr
  rcases h.cases_of_entries hgiven with ⟨es, rfl, hrel⟩ | hblank
  -- A section with nothing written has no settings in a text, but is refused in a file.
  case inr => exact absurd hgiven' (RawSetting.not_toFields_of_means hblank given')
  obtain rfl := Field.eq_members hgiven
  have hword := RawSetting.isWord_of_isName hname
  have hlaid := hrel.rel_laid hnames hname.2 hword RawSetting.lowerName_toString hspelled
    (RawSetting.exists_laid_table es) (RawSetting.get?_laid_table hword.lower) hgiven'
  have hreads := hreads name hname.2
  have hreads' := hreads' name hname.2
  rw [Field.get?]
  generalize Record.named given' name = found at hlaid hreads'
  cases hnamed : Record.named f.members name with
  | none =>
      rw [hnamed] at hreads hlaid
      cases hlaid
      refine iff_of_true (hreads.trans hreads'.symm) fun w hw => ?_
      cases hw
  | some g =>
      rw [hnamed] at hreads hlaid
      cases hlaid with
      | some hg =>
          obtain ⟨r, hsame, rfl⟩ := hg
          exact SettingKind.eq_iff_keeps hsame hreads hreads'

/-! ## All settings -/

/-- The keys and values of a document stand in a file in their order. -/
theorem sameEntries_of_document {d : Yaml.Document} {es : Layer} {expected : String}
    {given : List (Field × Field)} (hes : (RawSetting.ofDocument? d).bind RawSetting.entries? = some es)
    (hgiven : (Field.ofDocument d).entries expected = .ok given) :
    SameEntries given es := by
  obtain ⟨r, hr, htable⟩ := Option.bind_eq_some_iff.mp hes
  obtain rfl : r = .table es := by
    cases r with
    | table entries => rw [Option.some.inj htable]
    | _ => cases htable
  unfold RawSetting.ofDocument? at hr
  split at hr
  · rename_i hroot
    obtain rfl : es = [] := (RawSetting.table.inj (Option.some.inj hr)).symm
    have hnone : (Field.ofDocument d).target = none := by
      rw [Field.target, Field.ofDocument, hroot, Option.bind_none]
    rw [Field.entries, hnone] at hgiven
    dsimp only at hgiven
    rw [Field.isBlank, hnone] at hgiven
    obtain rfl := Except.ok.inj hgiven
    exact .nil
  · rename_i n hroot
    have hsame : SameNode (Field.ofDocument d) (.table es) := ⟨_, n, hroot, hr⟩
    rcases hsame.cases_of_entries hgiven with ⟨es', heq, hrel⟩ | hblank
    · rwa [RawSetting.table.inj heq]
    · cases hblank

theorem value_eq_iff {d : Yaml.Document} {es : Layer} {s loaded : Settings}
    (hes : (RawSetting.ofDocument? d).bind RawSetting.entries? = some es)
    (hs : read (Field.ofDocument d) = .ok s) (hloaded : read (Layer.merge [es]) = .ok loaded)
    (hspelled : SpelledOut d) {inside name : String} (hname : IsName inside name) :
    s.value inside name = loaded.value inside name ↔
      ∀ w ∈ written? d inside name, (kind inside name).Keeps w := by
  obtain ⟨given, hgiven, hnames, hsections⟩ := of_read hs
  obtain ⟨given', hgiven', -, hsections'⟩ := of_read hloaded
  have hrel := sameEntries_of_document hes hgiven
  obtain rfl := Field.eq_members hgiven
  have hword := RawSetting.isWord_of_section inside hname.1
  have hlaid := hrel.rel_laid hnames hname.1 hword RawSetting.topName_toString hspelled.1
    (Layer.exists_merge_singleton es) (Layer.get?_merge_singleton hword.path hword.lower) hgiven'
  have hinside := hsections inside hname.1
  have hinside' := hsections' inside hname.1
  have hkeys := hspelled.2 inside hname.1
  rw [Field.get?] at hkeys
  rw [written?, Field.get?]
  generalize Record.named given' inside = found at hlaid hinside'
  cases hnamed : Record.named (Field.ofDocument d).members inside with
  | none =>
      rw [hnamed] at hinside hlaid
      cases hlaid
      have heq : s.value inside = loaded.value inside := hinside.trans hinside'.symm
      refine iff_of_true (congrFun heq name) fun w hw => ?_
      cases hw
  | some f =>
      rw [hnamed] at hinside hlaid hkeys
      cases hlaid with
      | some hf =>
          obtain ⟨r, hsame, rfl⟩ := hf
          exact section_eq_iff hname hsame hinside hinside' (hkeys f rfl)

/-! ## Loading -/

end Settings

/-- The settings of a file are what the document of its text holds. -/
theorem Layer.entries?_of_ofFile {yaml : String → Option Yaml.Document} {files : FileTree}
    {path file source : String} {layer : Layer} {d : Yaml.Document}
    (hfile : locate? files path = some (file, .yaml)) (hsource : Settings.sourceText files file = .ok source)
    (hyaml : yaml (fileText (Utf8.ofString source)) = some d) (h : ofFile yaml files path = .ok layer) :
    (RawSetting.ofDocument? d).bind RawSetting.entries? = some layer := by
  have hread : files.read file = .ok source := by
    unfold Settings.sourceText at hsource
    split at hsource
    · rename_i hread
      rwa [Except.ok.inj hsource] at hread
    · cases hsource
  obtain ⟨bytes, hbytes, hread⟩ := exists_of_bind_eq_ok hread
  split at hread
  case h_2 => cases hread
  rename_i text htext
  obtain rfl := Except.ok.inj hread
  obtain rfl := Utf8.toString?_eq_some_iff.mp htext
  rw [ofFile, hfile] at h
  dsimp only at h
  rw [hbytes] at h
  dsimp only at h
  rw [SettingsFormat.read?, hyaml, Option.bind_some] at h
  split at h
  · rename_i hlayer
    rw [hlayer, Except.ok.inj h]
  · cases h

namespace Settings

theorem read_of_load {yaml : String → Option Yaml.Document} {files : FileTree}
    {environment : List (String × String)} {path : String} {s : Settings}
    (henv : Layer.ofEnvironment environment = []) (h : load yaml files environment path {} = .ok s) :
    ∃ layer, Layer.ofFile yaml files path = .ok layer ∧ read (Layer.merge [layer]) = .ok s := by
  obtain ⟨layer, hlayer, h⟩ := exists_of_bind_eq_ok h
  obtain ⟨s', hraw, h⟩ := exists_of_bind_eq_ok h
  obtain ⟨_, -, h⟩ := exists_of_bind_eq_ok h
  obtain rfl := Except.ok.inj h
  have hmerge : Layer.merge [layer, Layer.ofEnvironment environment] = Layer.merge [layer] := by
    simp only [henv, Layer.merge, List.flatten_cons, List.flatten_nil, List.append_nil]
  rw [hmerge] at hraw
  refine ⟨layer, hlayer, ?_⟩
  unfold ofRaw at hraw
  split at hraw
  · rename_i hread
    rw [hread, Except.ok.inj hraw]
    rfl
  · cases hraw

/-- Let the reader of files and the reader of texts make the same document of a text; they are two programs,
which part, for instance, at line breaks that only one of them knows. Then settings loaded from a file alone
are those that its text holds if and only if each scalar is kept that is a setting. -/
theorem load_eq_iff_kept {yaml : String → Option Yaml.Document} {files : FileTree}
    {environment : List (String × String)} {path file source : String} {d : Yaml.Document}
    {s loaded : Settings} (hfile : Layer.locate? files path = some (file, .yaml))
    (henv : Layer.ofEnvironment environment = []) (hsource : sourceText files file = .ok source)
    (hd : Yaml.Document.ofText? source = some d)
    (hyaml : yaml (Layer.fileText (Utf8.ofString source)) = some d) (hspelled : SpelledOut d)
    (hs : ofText source = .ok s) (hloaded : load yaml files environment path {} = .ok loaded) :
    s = loaded ↔ Kept d := by
  obtain ⟨layer, hlayer, hread⟩ := read_of_load henv hloaded
  have hes := Layer.entries?_of_ofFile hfile hsource hyaml hlayer
  rw [ofText, hd] at hs
  dsimp only at hs
  split at hs
  case h_2 => cases hs
  rename_i s' hs'
  obtain rfl := Except.ok.inj hs
  have hvalue : ∀ inside name, IsName inside name → _ := fun _ _ =>
    value_eq_iff hes hs' hread hspelled
  rw [eq_iff_values]
  constructor
  · exact fun heq inside hinside name hname =>
      (hvalue inside name ⟨hinside, hname⟩).mp (heq inside name ⟨hinside, hname⟩)
  · exact fun hkept inside name hname =>
      (hvalue inside name hname).mpr (hkept inside hname.1 name hname.2)

/-- A file whose numbers, truth values and null have spellings that both readers know, with a password in
quotes. -/
def quotedText : String :=
  "server:\n  port: 0x1F91\n  public_url: ~\nldap:\n  bind_dn: cn=admin\n  bind_password: '007'\n"

def quotedFiles : FileTree where
  items := [(["config.yaml"], .file (Utf8.ofString quotedText))]

def quotedSettings : Settings where
  server := { port := 8081 }
  ldap := { bindDn := some "cn=admin", bindPassword := some "007" }

theorem load_eq_iff_kept_of_quoted :
    ∃ d, Yaml.Document.ofText? quotedText = some d ∧ Kept d ∧ ofText quotedText = .ok quotedSettings ∧
      load Yaml.Document.ofText? quotedFiles [] "config.yaml" {} = .ok quotedSettings := by
  obtain ⟨d, hd⟩ : ∃ d, Yaml.Document.ofText? quotedText = some d :=
    Option.isSome_iff_exists.mp (by decide +kernel)
  have hfile : Layer.locate? quotedFiles "config.yaml" = some ("config.yaml", .yaml) := by decide +kernel
  have hsource : sourceText quotedFiles "config.yaml" = .ok quotedText := by decide +kernel
  have hspelled : SpelledOut d := by
    have hall : ∀ d ∈ Yaml.Document.ofText? quotedText, SpelledOut d := by decide +kernel
    exact hall d hd
  have hs : ofText quotedText = .ok quotedSettings := by decide +kernel
  have hloaded : load Yaml.Document.ofText? quotedFiles [] "config.yaml" {} = .ok quotedSettings := by
    decide +kernel
  have hyaml : Yaml.Document.ofText? (Layer.fileText (Utf8.ofString quotedText)) = some d := by
    rw [show Layer.fileText (Utf8.ofString quotedText) = quotedText by decide +kernel, hd]
  have hkept : Kept d :=
    (load_eq_iff_kept hfile rfl hsource hd hyaml hspelled hs hloaded).mp rfl
  exact ⟨d, hd, hkept, hs, hloaded⟩

/-- A file with a password of digits that are no number's. -/
def plainText : String :=
  "ldap:\n  bind_dn: cn=admin\n  bind_password: 007\n"

def plainFiles : FileTree where
  items := [(["config.yaml"], .file (Utf8.ofString plainText))]

/-- The number of the digits is printed otherwise. -/
example : ∀ d ∈ Yaml.Document.ofText? plainText, ¬Kept d := by decide +kernel

/-- Loaded settings are not always those of the file's text, even where both readers make the same document
of it. -/
theorem load_ne_ofText : ¬∀ (yaml : String → Option Yaml.Document) (files : FileTree)
    (environment : List (String × String)) (path file source : String) (s loaded : Settings),
    yaml (Layer.fileText (Utf8.ofString source)) = Yaml.Document.ofText? source →
      Layer.locate? files path = some (file, .yaml) → Layer.ofEnvironment environment = [] →
      sourceText files file = .ok source → ofText source = .ok s →
      load yaml files environment path {} = .ok loaded → s = loaded := by
  intro h
  have hyaml : Yaml.Document.ofText? (Layer.fileText (Utf8.ofString plainText)) =
      Yaml.Document.ofText? plainText := by
    rw [show Layer.fileText (Utf8.ofString plainText) = plainText by decide +kernel]
  have heq := h Yaml.Document.ofText? plainFiles [] "config.yaml" "config.yaml" plainText
    { ldap := { bindDn := some "cn=admin", bindPassword := some "007" } }
    { ldap := { bindDn := some "cn=admin", bindPassword := some "7" } }
    hyaml (by decide +kernel) rfl (by decide +kernel)
    (by decide +kernel) (by decide +kernel)
  exact absurd heq (by decide)

end Settings

end Preseed

import Preseed.Proofs.Record.Views
import Preseed.Settings.Read

/-! # Settings by sections and names

The settings are sections, and a section has values under names. Each is of one of a few kinds, and is read
from any source as its kind is. -/

namespace Preseed

open Record (Source Shape IsView AreNames Reads named)

inductive SettingValue where
  | text (s : String)
  | optional (s : Option String)
  | number (n : Nat)
  | truth (b : Bool)
  | format (f : LogFormat)

inductive SettingKind where
  /-- A text; a fault says what was expected. -/
  | text (expected : String)
  /-- A text that need not be there. -/
  | optional
  /-- A number below a limit; a fault says what was expected. -/
  | number (limit : Nat) (expected : String)
  | truth
  | format

variable {ν φ : Type} [Source ν φ]

/-- What a setting of a kind is read as. -/
def SettingKind.read (kind : SettingKind) (v : ν) : Except φ SettingValue :=
  match kind with
  | text expected => .text <$> Source.text expected v
  | optional => .optional <$> Record.optionalText v
  | number limit expected => .number <$> Source.unsigned limit expected v
  | truth => .truth <$> Source.bool v
  | format => .format <$> LogFormat.read v

/-! ## The sections -/

namespace AppSettings

def kind (_ : String) : SettingKind :=
  .text "a string"

def value (s : AppSettings) : String → SettingValue
  | "name" => .text s.name
  | _ => .text s.environment

theorem eq_of_values {s t : AppSettings} (h : ∀ name ∈ shape.names, s.value name = t.value name) : s = t := by
  cases s
  cases t
  simpa [shape, value] using h

theorem isView : IsView (ν := ν) shape setField value fun name => (kind name).read where
  step hname h := by
    simp only [shape, List.mem_cons, List.not_mem_nil, or_false] at hname
    rcases hname with rfl | rfl <;>
      obtain ⟨x, hx, h⟩ := exists_of_bind_eq_ok h <;>
      obtain rfl := Except.ok.inj h <;>
      exact ⟨map_eq_ok _ hx, by simp [shape, value]⟩

end AppSettings

namespace ServerSettings

def kind : String → SettingKind
  | "port" => .number 65536 "u16"
  | "public_url" => .optional
  | "trust_forwarded_for" => .truth
  | _ => .text "a string"

def value (s : ServerSettings) : String → SettingValue
  | "host" => .text s.host
  | "port" => .number s.port
  | "public_url" => .optional s.publicUrl
  | _ => .truth s.trustForwardedFor

theorem eq_of_values {s t : ServerSettings} (h : ∀ name ∈ shape.names, s.value name = t.value name) : s = t := by
  cases s
  cases t
  simpa [shape, value] using h

theorem isView : IsView (ν := ν) shape setField value fun name => (kind name).read where
  step hname h := by
    simp only [shape, List.mem_cons, List.not_mem_nil, or_false] at hname
    rcases hname with rfl | rfl | rfl | rfl <;>
      obtain ⟨x, hx, h⟩ := exists_of_bind_eq_ok h <;>
      obtain rfl := Except.ok.inj h <;>
      exact ⟨map_eq_ok _ hx, by simp [shape, value]⟩

end ServerSettings

namespace LdapSettings

def kind : String → SettingKind
  | "bind_dn" | "bind_password" => .optional
  | "starttls" => .truth
  | "timeout_secs" => .number (Nat.pow 2 64) "u64"
  | _ => .text "a string"

def value (s : LdapSettings) : String → SettingValue
  | "url" => .text s.url
  | "base_dn" => .text s.baseDn
  | "bind_dn" => .optional s.bindDn
  | "bind_password" => .optional s.bindPassword
  | "starttls" => .truth s.startTls
  | "timeout_secs" => .number s.timeoutSeconds
  | "object_class" => .text s.objectClass
  | "member_attribute" => .text s.memberAttribute
  | _ => .text s.classAttribute

theorem eq_of_values {s t : LdapSettings} (h : ∀ name ∈ shape.names, s.value name = t.value name) : s = t := by
  cases s
  cases t
  simpa [shape, value] using h

theorem isView : IsView (ν := ν) shape setField value fun name => (kind name).read where
  step hname h := by
    simp only [shape, List.mem_cons, List.not_mem_nil, or_false] at hname
    rcases hname with rfl | rfl | rfl | rfl | rfl | rfl | rfl | rfl | rfl <;>
      obtain ⟨x, hx, h⟩ := exists_of_bind_eq_ok h <;>
      obtain rfl := Except.ok.inj h <;>
      exact ⟨map_eq_ok _ hx, by simp [shape, value]⟩

end LdapSettings

namespace PluginSettings

def kind : String → SettingKind
  | "directory" => .text "path string"
  | _ => .text "a string"

def value (s : PluginSettings) : String → SettingValue
  | "directory" => .text s.directory
  | _ => .text s.extension

theorem eq_of_values {s t : PluginSettings} (h : ∀ name ∈ shape.names, s.value name = t.value name) : s = t := by
  cases s
  cases t
  simpa [shape, value] using h

theorem isView : IsView (ν := ν) shape setField value fun name => (kind name).read where
  step hname h := by
    simp only [shape, List.mem_cons, List.not_mem_nil, or_false] at hname
    rcases hname with rfl | rfl <;>
      obtain ⟨x, hx, h⟩ := exists_of_bind_eq_ok h <;>
      obtain rfl := Except.ok.inj h <;>
      exact ⟨map_eq_ok _ hx, by simp [shape, value]⟩

end PluginSettings

namespace ResolverSettings

def kind : String → SettingKind
  | "reverse_dns" | "arp" => .truth
  | "arp_timeout_secs" => .number (Nat.pow 2 64) "u64"
  | _ => .text "path string"

def value (s : ResolverSettings) : String → SettingValue
  | "reverse_dns" => .truth s.reverseDns
  | "arp" => .truth s.arp
  | "proc_arp_path" => .text s.arpTable
  | "arp_command" => .text s.arpCommand
  | _ => .number s.arpTimeoutSeconds

theorem eq_of_values {s t : ResolverSettings} (h : ∀ name ∈ shape.names, s.value name = t.value name) : s = t := by
  cases s
  cases t
  simpa [shape, value] using h

theorem isView : IsView (ν := ν) shape setField value fun name => (kind name).read where
  step hname h := by
    simp only [shape, List.mem_cons, List.not_mem_nil, or_false] at hname
    rcases hname with rfl | rfl | rfl | rfl | rfl <;>
      obtain ⟨x, hx, h⟩ := exists_of_bind_eq_ok h <;>
      obtain rfl := Except.ok.inj h <;>
      exact ⟨map_eq_ok _ hx, by simp [shape, value]⟩

end ResolverSettings

namespace LoggingSettings

def kind : String → SettingKind
  | "format" => .format
  | _ => .text "a string"

def value (s : LoggingSettings) : String → SettingValue
  | "level" => .text s.level
  | _ => .format s.format

theorem eq_of_values {s t : LoggingSettings} (h : ∀ name ∈ shape.names, s.value name = t.value name) : s = t := by
  cases s
  cases t
  simpa [shape, value] using h

theorem isView : IsView (ν := ν) shape setField value fun name => (kind name).read where
  step hname h := by
    simp only [shape, List.mem_cons, List.not_mem_nil, or_false] at hname
    rcases hname with rfl | rfl <;>
      obtain ⟨x, hx, h⟩ := exists_of_bind_eq_ok h <;>
      obtain rfl := Except.ok.inj h <;>
      exact ⟨map_eq_ok _ hx, by simp [shape, value]⟩

end LoggingSettings

/-! ## The settings -/

namespace Settings

def sectionShape : String → Shape
  | "app" => AppSettings.shape
  | "server" => ServerSettings.shape
  | "ldap" => LdapSettings.shape
  | "plugins" => PluginSettings.shape
  | "resolver" => ResolverSettings.shape
  | _ => LoggingSettings.shape

/-- The kind of the setting with a name in a section. -/
def kind : String → String → SettingKind
  | "app" => AppSettings.kind
  | "server" => ServerSettings.kind
  | "ldap" => LdapSettings.kind
  | "plugins" => PluginSettings.kind
  | "resolver" => ResolverSettings.kind
  | _ => LoggingSettings.kind

/-- The setting with a name in a section. -/
def value (s : Settings) : String → String → SettingValue
  | "app" => s.app.value
  | "server" => s.server.value
  | "ldap" => s.ldap.value
  | "plugins" => s.plugins.value
  | "resolver" => s.resolver.value
  | _ => s.logging.value

/-- The names of the sections and of the settings in each. -/
def IsName (inside name : String) : Prop :=
  inside ∈ shape.names ∧ name ∈ (sectionShape inside).names

/-- Settings are the same if and only if they are so under every name. -/
theorem eq_iff_values {s t : Settings} :
    s = t ↔ ∀ inside name, IsName inside name → s.value inside name = t.value inside name := by
  refine ⟨fun h _ _ _ => h ▸ rfl, fun h => ?_⟩
  have happ : s.app = t.app := AppSettings.eq_of_values fun name hname => h "app" name ⟨by decide, hname⟩
  have hserver : s.server = t.server :=
    ServerSettings.eq_of_values fun name hname => h "server" name ⟨by decide, hname⟩
  have hldap : s.ldap = t.ldap :=
    LdapSettings.eq_of_values fun name hname => h "ldap" name ⟨by decide, hname⟩
  have hplugins : s.plugins = t.plugins :=
    PluginSettings.eq_of_values fun name hname => h "plugins" name ⟨by decide, hname⟩
  have hresolver : s.resolver = t.resolver :=
    ResolverSettings.eq_of_values fun name hname => h "resolver" name ⟨by decide, hname⟩
  have hlogging : s.logging = t.logging :=
    LoggingSettings.eq_of_values fun name hname => h "logging" name ⟨by decide, hname⟩
  cases s
  cases t
  simp_all

def readSection (inside : String) (v : ν) : Except φ (String → SettingValue) :=
  match inside with
  | "app" => AppSettings.value <$> Record.read AppSettings.shape {} AppSettings.setField v
  | "server" => ServerSettings.value <$> Record.read ServerSettings.shape {} ServerSettings.setField v
  | "ldap" => LdapSettings.value <$> Record.read LdapSettings.shape {} LdapSettings.setField v
  | "plugins" => PluginSettings.value <$> Record.read PluginSettings.shape {} PluginSettings.setField v
  | "resolver" =>
    ResolverSettings.value <$> Record.read ResolverSettings.shape {} ResolverSettings.setField v
  | _ => LoggingSettings.value <$> Record.read LoggingSettings.shape {} LoggingSettings.setField v

theorem isView : IsView (ν := ν) shape setField value readSection where
  step hname h := by
    simp only [shape, List.mem_cons, List.not_mem_nil, or_false] at hname
    rcases hname with rfl | rfl | rfl | rfl | rfl | rfl <;>
      obtain ⟨x, hx, h⟩ := exists_of_bind_eq_ok h <;>
      obtain rfl := Except.ok.inj h <;>
      exact ⟨map_eq_ok _ hx, by simp [shape, value]⟩

/-- A section has its own names, and of each what stands there or the default. -/
def HasSection (inside : String) (v : ν) (values : String → SettingValue) : Prop :=
  ∃ given, Source.fields (sectionShape inside).expected (sectionShape inside).names v = .ok given ∧
    AreNames (sectionShape inside) given ∧
    ∀ name ∈ (sectionShape inside).names,
      Reads (kind inside name).read (({} : Settings).value inside name) (named given name) (values name)

theorem hasSection_of_read {inside : String} (hinside : inside ∈ shape.names) {v : ν}
    {values : String → SettingValue} (h : readSection inside v = .ok values) :
    HasSection inside v values := by
  simp only [shape, List.mem_cons, List.not_mem_nil, or_false] at hinside
  rcases hinside with rfl | rfl | rfl | rfl | rfl | rfl <;>
    obtain ⟨x, hx, rfl⟩ := exists_of_map_eq_ok h
  · exact AppSettings.isView.of_read hx
  · exact ServerSettings.isView.of_read hx
  · exact LdapSettings.isView.of_read hx
  · exact PluginSettings.isView.of_read hx
  · exact ResolverSettings.isView.of_read hx
  · exact LoggingSettings.isView.of_read hx

theorem of_read {whole : ν} {s : Settings} (h : read whole = .ok s) :
    ∃ given, Source.fields shape.expected shape.names whole = .ok given ∧ AreNames shape given ∧
      ∀ inside ∈ shape.names, (named given inside).elim
        (s.value inside = ({} : Settings).value inside) fun v => HasSection inside v (s.value inside) := by
  obtain ⟨given, hgiven, hnames, hreads⟩ := isView.of_read h
  refine ⟨given, hgiven, hnames, fun inside hinside => ?_⟩
  have hinner := hreads inside hinside
  cases hnamed : named given inside with
  | none =>
      rw [hnamed] at hinner
      exact hinner
  | some v =>
      rw [hnamed] at hinner
      exact hasSection_of_read hinside hinner

end Settings

end Preseed

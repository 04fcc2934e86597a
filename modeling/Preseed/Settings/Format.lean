import Preseed.Ini
import Preseed.Json.Basic
import Preseed.Settings.Layer
import Preseed.Toml.Basic
import Preseed.Yaml.Plain

/-!
# Formats of settings' files

The extension of a file's name tells its format. The whole text must be a table.
-/

namespace Preseed

namespace RawSetting

def entries? : RawSetting → Option Layer
  | table entries => some entries
  | _ => none

/-! ## JSON -/

mutual

def ofJson : Json → RawSetting
  | .null => null
  | .bool b => bool b
  | .integer i => integer i
  | .real d => real d
  | .text s => text s
  | .array items => list (ofJsonList items)
  | .object members => table (ofMembers members [])

def ofJsonList : List Json → List RawSetting
  | [] => []
  | v :: rest => ofJson v :: ofJsonList rest

/-- Of two members of one name the last counts. -/
def ofMembers : List (String × Json) → List (String × RawSetting) → List (String × RawSetting)
  | [], found => found
  | (name, v) :: rest, found => ofMembers rest (putEntry name (ofJson v) found)

end

/-! ## TOML -/

mutual

def ofToml : Toml → RawSetting
  | .bool b => bool b
  | .integer i => integer i
  | .real d => real d
  | .text s => text s
  | .moment s => text s
  | .array items => list (ofTomlList items)
  | .table entries => table (ofTomlEntries entries)

def ofTomlList : List Toml → List RawSetting
  | [] => []
  | v :: rest => ofToml v :: ofTomlList rest

def ofTomlEntries : List (String × Toml) → List (String × RawSetting)
  | [] => []
  | (name, v) :: rest => (name, ofToml v) :: ofTomlEntries rest

end

/-! ## INI -/

/-- Texts by their keys; of two under one key the last counts. -/
def ofPairs (pairs : List (String × String)) (found : List (String × RawSetting)) :
    List (String × RawSetting) :=
  pairs.foldl (fun found (key, value) => putEntry key (text value) found) found

/-- The settings of sections: a heading names a table, and the last one of a name counts. -/
def ofSections (sections : List IniSection) : List (String × RawSetting) :=
  sections.foldl (fun found s =>
    match s.heading with
    | some name => putEntry name (table (ofPairs s.pairs [])) found
    | none => ofPairs s.pairs found) []

/-! ## YAML -/

/-- A whole number in a base, with an optional sign, of 64 bits. -/
def signed? (base : Nat) (cs : List Char) : Option Int :=
  let (negative, digits) := match cs with
    | '-' :: digits => (true, digits)
    | '+' :: digits => (false, digits)
    | digits => (false, digits)
  if digits.isEmpty then none
  else
    (Ascii.number? base digits).bind fun n =>
      if negative then if n ≤ Nat.pow 2 63 then some (-(n : Int)) else none
      else if n < Nat.pow 2 63 then some n else none

def plainInteger? (cs : List Char) : Option Int :=
  let based := match cs with
    | '0' :: 'x' :: digits => signed? 16 digits
    | '0' :: 'o' :: digits => signed? 8 digits
    | '+' :: digits => signed? 10 digits
    | _ => none
  match based with
  | some i => some i
  | none => signed? 10 cs

def infinities : List String :=
  [".inf", ".Inf", ".INF", "+.inf", "+.Inf", "+.INF", "-.inf", "-.Inf", "-.INF", ".nan", ".NAN"]

/-- A real number has a digit, or is one of a few words. -/
def isReal (s : String) : Bool :=
  s ∈ infinities || s = "NaN" || (s.toList.any Ascii.isDigit && (Double.ofChars? s.toList).isSome)

/-- The real number that a text writes; the words with a point have no value. -/
def ofReal? (s : String) : Option RawSetting :=
  (Double.ofChars? s.toList).map real

/-- The meaning of a scalar without quotes and tag. -/
def ofPlain? (s : String) : Option RawSetting :=
  match plainInteger? s.toList with
  | some i => some (integer i)
  | none =>
    if s ∈ ["", "~", "null"] then some null
    else if s = "true" then some (bool true)
    else if s = "false" then some (bool false)
    else if isReal s then ofReal? s
    else some (text s)

/-- The meaning that a tag gives; what does not fit the tag is null. -/
def ofTagged? (tag s : String) : Option RawSetting :=
  if tag = Yaml.Plain.boolTag then
    some (if s = "true" then bool true else if s = "false" then bool false else null)
  else if tag = Yaml.Plain.intTag then some (((signed? 10 s.toList).map integer).getD null)
  else if tag = Yaml.Plain.floatTag then if isReal s then ofReal? s else some null
  else if tag = Yaml.Plain.nullTag then some null
  else some (text s)

def ofScalar? (p : Yaml.Properties) (style : Yaml.ScalarStyle) (s : String) : Option RawSetting :=
  if style ≠ .plain then some (text s)
  else
    match p.tag with
    | some tag => ofTagged? tag s
    | none => ofPlain? s

/-- A key as it is written, and whether it is text. Keys that are not scalars or null have no text. -/
def ofKey? : Yaml.Node → Option (String × Bool)
  | .scalar p style s =>
    match ofScalar? p style s with
    | some (text s) => some (s, true)
    | some (bool b) => some (boolText b, false)
    | some (integer i) => some (toString i, false)
    | some (real _) => some (s, false)
    | _ => none
  | _ => none

/-- The setting of a node; collections may stand in one another up to `depth`. No key may occur twice. -/
def ofNode? (d : Yaml.Document) : (depth : Nat) → Yaml.Node → Option RawSetting
  | 0, _ => none
  | depth + 1, n =>
    match n with
    | .scalar p style s => ofScalar? p style s
    | .sequence _ items => (items.mapM (ofNode? d depth)).map list
    | .mapping _ entries => do
      let keys ← entries.mapM fun (k, _) => ofKey? (resolve d k)
      if keys.eraseDups.length ≠ keys.length then none
      else
        let values ← entries.mapM fun (_, v) => ofNode? d depth v
        some (table ((keys.map (·.1)).zip values))
    | .alias target =>
      match d.target? target with
      | some n => ofNode? d depth n
      | none => some null
where
  resolve (d : Yaml.Document) (n : Yaml.Node) : Yaml.Node :=
    match n with
    | .alias target => (d.target? target).getD n
    | n => n

/-- How deep collections may stand in one another. -/
def maxDepth : Nat := 1000

def ofDocument? (d : Yaml.Document) : Option RawSetting :=
  match d.root with
  | none => some (table [])
  | some n => ofNode? d maxDepth n

end RawSetting

/-- The formats of settings' files. -/
inductive SettingsFormat where
  | ini
  | json
  | toml
  | yaml
  deriving DecidableEq, Repr

namespace SettingsFormat

/-- The extensions, in the order in which they are tried. -/
def extensions : List (String × SettingsFormat) :=
  [("toml", toml), ("json", json), ("yaml", yaml), ("yml", yaml), ("ini", ini)]

def ofExtension? (extension : String) : Option SettingsFormat :=
  extensions.lookup extension

/-- The settings that a text holds. Texts in YAML are read by the reader that is given. -/
def read? (yaml : String → Option Yaml.Document) (format : SettingsFormat) (source : String) :
    Option Layer :=
  match format with
  | ini => (Ini.ofText? source).map RawSetting.ofSections
  | toml => (Toml.ofText? source).map RawSetting.ofTomlEntries
  | json => (Json.ofText? source).bind fun v => (RawSetting.ofJson v).entries?
  | .yaml => ((yaml source).bind RawSetting.ofDocument?).bind RawSetting.entries?

end SettingsFormat

end Preseed

import Preseed.Files.Basic
import Preseed.Text.Uppercase
import Preseed.Yaml.Field

/-!
# Plugin definitions

A definition is a file in the plugin directory. Its name up to the first dot, with a capital in front, is
the plugin's name; its text tells the kind of plugin and the settings.
-/

namespace Preseed

/-- A definition that was found. -/
structure Descriptor where
  name : String
  path : String
  deriving DecidableEq, Repr

/-- What a definition says. -/
structure Definition where
  /-- A definition without a kind defines nothing. -/
  kind : Option String := none
  settings : Yaml.Value := .null
  deriving Inhabited

inductive DefinitionError where
  | file (error : FileError)
  /-- The text is not one well-formed document. -/
  | malformed
  | data (problem : Yaml.Located)
  deriving DecidableEq, Repr

namespace Definition

/-- The plugin's name, if a file name is one of a definition: a stem without dots before the
extension. -/
def nameChars? (extension file : List Char) : Option (List Char) :=
  match Split.cut? '.' file with
  | some (first :: rest, ext) =>
    if ext = extension then some (Uppercase.ofChar first ++ rest) else none
  | _ => none

def pluginName? (extension file : String) : Option String :=
  (nameChars? extension.toList file.toList).map String.ofList

/-- The names of the files among the items of a directory, in ascending order. -/
def fileNames (items : List DirItem) : List String :=
  (items.filterMap fun i => if i.isFile then Utf8.toString? i.name else none).mergeSort
    fun a b => decide (a ≤ b)

/-- Whether a plugin is asked for. -/
def isWanted (filter : Option String) (name : String) : Bool :=
  filter.all fun wanted => Ascii.eqIgnoreCase wanted name

/-- The plugins that files define, without those whose name an earlier file took. -/
def collect (directory extension : String) (filter : Option String) :
    List String → List Descriptor → List Descriptor
  | [], found => found.reverse
  | file :: files, found =>
    match pluginName? extension file with
    | none => collect directory extension filter files found
    | some name =>
      if !isWanted filter name || found.any (·.name == name) then
        collect directory extension filter files found
      else
        collect directory extension filter files
          (⟨name, FileTree.join directory file⟩ :: found)

/-- The plugins that the items of a directory define, in the order of their names. -/
def ofItems (directory extension : String) (filter : Option String) (items : List DirItem) :
    List Descriptor :=
  (collect directory extension filter (fileNames items) []).mergeSort
    fun a b => decide (a.name ≤ b.name)

/-- The plugins that a directory defines. One that is missing defines none. -/
def discover (files : FileTree) (directory extension : String) (filter : Option String) :
    Except FileError (List Descriptor) :=
  match files.list directory with
  | .ok items => .ok (ofItems directory extension filter items)
  | .error .notFound => .ok []
  | .error e => .error e

def shape : Record.Shape where
  expected := "struct PluginDefinition"
  names := ["kind", "settings"]

/-- Whether a key of the document names the kind. -/
def isKindKey (d : Yaml.Document) (key : Yaml.Node) : Bool :=
  match Yaml.Value.follow d key with
  | some (.scalar _ _ name) => name == "kind"
  | _ => false

/-- The aliases that are followed outside the settings: keys, and the kind. -/
def outerAliases (d : Yaml.Document) : Nat :=
  match d.root with
  | some (.mapping _ entries) =>
    entries.countP (·.1.isAlias) + entries.countP fun (key, value) => isKindKey d key && value.isAlias
  | _ => 0

def setField (d : Definition) (name : String) (f : Yaml.Field) : Except Yaml.Located Definition := do
  match name with
  | "kind" => pure { d with kind := ← Record.optionalText f }
  | _ => pure { d with settings := ← f.value (outerAliases f.document) }

def ofText (text : String) : Except DefinitionError Definition :=
  match Yaml.Document.ofText? text with
  | none => .error .malformed
  | some d =>
    match Record.read shape {} setField (Yaml.Field.ofDocument d) with
    | .ok definition => .ok definition
    | .error problem => .error (.data problem)

/-- Reads a definition's file. -/
def read (files : FileTree) (path : String) : Except DefinitionError Definition :=
  match files.read path with
  | .ok text => ofText text
  | .error e => .error (.file e)

end Definition

end Preseed

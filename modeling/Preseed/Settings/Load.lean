import Preseed.Net.Address
import Preseed.Settings.Format
import Preseed.Settings.Read

/-!
# Loading settings

Settings come from a file, if there is one, from the environment over it, and from the command line over
both. The whole is checked.
-/

namespace Preseed

namespace Layer

/-! ## The environment -/

/-- What the names of the variables that are settings begin with, in any case. -/
def variableStart : List Char := "netpreseed__".toList

/-- A variable's name with two underscores in the place of each point. -/
def dotted : List Char → List Char
  | '_' :: '_' :: rest => '.' :: dotted rest
  | c :: rest => c :: dotted rest
  | [] => []

/-- The name of the setting that a variable holds. -/
def settingName? (name : String) : Option String :=
  let name := (RawSetting.lowerName name).toList
  if variableStart.isPrefixOf name then
    some (String.ofList (dotted (name.drop variableStart.length)))
  else none

/-- What a variable's text stands for. -/
def ofVariableText (s : String) : RawSetting :=
  if Ascii.lower s = "true" then .bool true
  else if Ascii.lower s = "false" then .bool false
  else
    match RawSetting.signed? 10 s.toList with
    | some i => .integer i
    | none =>
      match Double.ofChars? s.toList with
      | some d => .real d
      | none => .text s

def ofEnvironment (environment : List (String × String)) : Layer :=
  environment.filterMap fun (name, value) => (settingName? name).map fun name => (name, ofVariableText value)

/-! ## The file -/

/-- The extension of a path's last part, which does not begin with its only point. -/
def extension (path : String) : String :=
  let name := ((Split.pieces '/' path.toList).getLast?.getD []).reverse
  match Split.cut? '.' name with
  | some (extension, _ :: _) => String.ofList extension.reverse
  | _ => ""

def isFile (files : FileTree) (path : String) : Bool :=
  match files.find path with
  | .ok (_, .file _) => true
  | _ => false

/-- The files that a path may stand for when no file has that path itself, with their formats. -/
def candidates (path : String) : List (String × SettingsFormat) :=
  SettingsFormat.extensions.map fun (extension, format) => (path ++ "." ++ extension, format)

/-- The file for a path and its format: the path itself, or the path with an extension behind it. -/
def locate? (files : FileTree) (path : String) : Option (String × SettingsFormat) :=
  if isFile files path then
    (SettingsFormat.ofExtension? (extension path)).map fun format => (path, format)
  else (candidates path).find? fun (path, _) => isFile files path

def byteOrderMark : Bytes := [0xEF, 0xBB, 0xBF]

/-- The text of a file; faults in its encoding are passed over. -/
def fileText (bytes : Bytes) : String :=
  Utf8.toStringLossy (if byteOrderMark.isPrefixOf bytes then bytes.drop byteOrderMark.length else bytes)

/-- The settings of a file; there are none if there is no file of a known format. -/
def ofFile (yaml : String → Option Yaml.Document) (files : FileTree) (path : String) :
    Except SettingsError Layer :=
  match locate? files path with
  | none => .ok []
  | some (path, format) =>
    match files.readBytes path with
    | .error _ => .ok []
    | .ok bytes =>
      match format.read? yaml (fileText bytes) with
      | some layer => .ok layer
      | none => .error (.loadFailed path "malformed document")

end Layer

namespace Settings

def ofRaw (raw : RawSetting) : Except SettingsError Settings :=
  match (read raw : Except Record.Problem Settings) with
  | .ok s => .ok s
  | .error problem => .error (.invalidFormat problem.message)

/-- What the command line says in the place of settings. -/
structure Overrides where
  bind : Option Net.Endpoint := none
  logLevel : Option String := none

def override (s : Settings) (o : Overrides) : Settings :=
  let s := match o.bind with
    | some e => { s with server := { s.server with host := e.address.toString, port := e.port.toNat } }
    | none => s
  match o.logLevel with
  | some level => { s with logging := { s.logging with level } }
  | none => s

/-- The checked settings of a file, the environment and the command line. -/
def load (yaml : String → Option Yaml.Document) (files : FileTree)
    (environment : List (String × String)) (path : String) (overrides : Overrides) :
    Except SettingsError Settings := do
  let file ← Layer.ofFile yaml files path
  let s ← ofRaw (Layer.merge [file, Layer.ofEnvironment environment])
  let s := s.override overrides
  s.check
  pure s

end Settings

end Preseed

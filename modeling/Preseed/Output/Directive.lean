import Preseed.Record.Source

/-!
# Installer directives

An answer to a question of the installer: its owner, key, type and value.
-/

namespace Preseed

structure Directive where
  owner : String := "d-i"
  key : String
  type : String := "string"
  value : String := ""
  deriving DecidableEq, Repr, Inhabited

namespace Directive

def string (key value : String) : Directive :=
  { key, value }

def boolean (key : String) (value : Bool) : Directive :=
  { key, type := "boolean", value := if value then "true" else "false" }

/-- The parts between spaces; an empty value is left out with its space. -/
def text (d : Directive) : String :=
  d.owner ++ " " ++ d.key ++ " " ++ d.type ++ (if d.value.isEmpty then "" else " " ++ d.value)

def shape : Record.Shape where
  expected := "struct Directive"
  names := ["owner", "key", "type", "value"]
  required := ["key"]

variable {ν φ : Type} [Record.Source ν φ]

def setField (d : Directive) (name : String) (v : ν) : Except φ Directive := do
  let s ← Record.text v
  match name with
  | "owner" => pure { d with owner := s }
  | "key" => pure { d with key := s }
  | "type" => pure { d with type := s }
  | _ => pure { d with value := s }

def read (v : ν) : Except φ Directive :=
  Record.read shape { key := "" } setField v

end Directive

end Preseed

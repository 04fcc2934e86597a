import Preseed.Net.Form

/-!
# Request parameters

What an installer asks for in its query. Values end up in line-oriented answers and shell scripts, so a
value with a character outside the safe set counts as absent; the script phase and the protocol tag stay
present with their unsafe characters removed.
-/

namespace Preseed

/-- The phase of the installation in which a generated script runs. -/
inductive Phase where
  | early
  | late
  deriving DecidableEq, Repr

namespace Phase

protected def toString : Phase → String
  | .early => "early"
  | .late => "late"

def ofString? (s : String) : Option Phase :=
  if s = "early" then some .early
  else if s = "late" then some .late
  else none

/-- What is said of a text that names no phase. -/
def unknownMessage (s : String) : String :=
  "unknown script phase: " ++ s

end Phase

/-- What a request asks to be generated. -/
inductive Mode where
  /-- Installer directives. -/
  | preseed
  /-- The script of a phase. -/
  | script (phase : Phase)
  /-- A script was asked for under a name that is no phase. -/
  | unknownScript (raw : String)
  deriving DecidableEq, Repr

namespace Mode

def isScript : Mode → Bool
  | .preseed => false
  | .script _ => true
  | .unknownScript _ => true

end Mode

/-- A character that is inert in installer directives and in shell. -/
def isSafeChar (c : Char) : Bool :=
  Ascii.isAlphanumeric c || c ∈ ['.', '-', '_', ':', '+', '@']

def isSafe (s : String) : Bool :=
  s.toList.all isSafeChar

/-- The parameters of a request. -/
structure Params where
  /-- Replaces the client's name. -/
  client : Option String := none
  /-- Classes in the order given. -/
  classes : List String := []
  /-- The node, which is a class too. -/
  node : Option String := none
  arch : Option String := none
  distro : Option String := none
  /-- Restricts an answer to one plugin. -/
  plugin : Option String := none
  /-- The requested script; its presence selects script mode. -/
  script : Option String := none
  /-- The info page is asked for. -/
  info : Bool := false
  /-- The protocol tag, which nothing interprets. -/
  version : Option String := none
  deriving DecidableEq, Repr, Inhabited

namespace Params

/-- The value, unless it is empty or unsafe. -/
def checked (value : String) : Option String :=
  if value.isEmpty || !isSafe value then none else some value

/-- The value without its unsafe characters. -/
def stripped (value : String) : String :=
  String.ofList (value.toList.filter isSafeChar)

/-- The effect of one decoded pair. The last occurrence of a key counts, except that classes add up. -/
def apply (params : Params) (pair : String × String) : Params :=
  let (key, value) := pair
  match key with
  | "client" => { params with client := checked value }
  | "class" => { params with classes := params.classes ++ (checked value).toList }
  | "node" => { params with node := checked value }
  | "arch" => { params with arch := checked value }
  | "distro" => { params with distro := checked value }
  | "plugin" => { params with plugin := checked value }
  | "script" => { params with script := some (stripped value) }
  | "info" => { params with info := true }
  | "v" => { params with version := some (stripped value) }
  | _ => params

def ofPairs (pairs : List (String × String)) : Params :=
  pairs.foldl apply {}

/-- The parameters of a query, which is given without its question mark. -/
def parse (query : String) : Params :=
  ofPairs (Form.decode query)

def mode (params : Params) : Mode :=
  match params.script with
  | none => .preseed
  | some raw =>
    match Phase.ofString? raw with
    | some phase => .script phase
    | none => .unknownScript raw

end Params

end Preseed

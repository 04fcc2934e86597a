import Preseed.Record.Source
import Preseed.Yaml.Plain

/-!
# Resolved values

A document's data with every scalar resolved by its meaning and every alias followed. Typed records are
read from values without regard to tags, and null stands for an empty list or record.
-/

namespace Preseed.Yaml

open Record (Found Problem)

inductive Value where
  | null
  | bool (b : Bool)
  | integer (i : Int)
  | real (d : Double)
  | text (s : String)
  | sequence (items : List Value)
  | mapping (entries : List (Value × Value))
  /-- A value with a tag of the document's own. -/
  | tagged (tag : String) (value : Value)
  deriving BEq, Inhabited

/-- A step from a value to one inside it. -/
inductive Step where
  | key (name : String)
  | index (i : Nat)
  /-- Under a key that is no scalar. -/
  | unknown
  deriving DecidableEq, Repr

/-- The way from the root to a value, the last step first. -/
abbrev Path := List Step

namespace Path

/-- The steps joined by points; indices stand in brackets, and the root alone is a point. -/
def text : Path → String
  | [] => "."
  | .index i :: parent => text parent ++ "[" ++ toString i ++ "]"
  | [.key name] => name
  | .key name :: parent => text parent ++ "." ++ name
  | [.unknown] => "?"
  | .unknown :: parent => text parent ++ ".?"

end Path

/-- A problem and where it was found, if that is known. -/
structure Located where
  path : Path
  problem : Problem
  deriving DecidableEq, Repr

namespace Located

/-- The problem's wording behind the path to it. -/
def message (l : Located) : String :=
  if l.path.isEmpty || l.problem = .tooDeep || l.problem = .tooRepetitive then l.problem.message
  else Path.text l.path ++ ": " ++ l.problem.message

end Located

namespace Value

/-- What a value's problem calls a key that is there twice. -/
def describeKey : Value → String
  | null => "with null key"
  | bool b => "with key " ++ Found.quoted (if b then "true" else "false")
  | integer i => "with key " ++ toString i
  | real d => "with key " ++ d.toCompactText
  | text s => "with key " ++ Quoted.encode s
  | _ => "in YAML map"

def ofPlain (p : Plain) : Except Problem Value :=
  match p with
  | .null => .ok null
  | .bool b => .ok (bool b)
  | .integer i => .ok (integer i)
  | .wideInteger _ => .error (.invalidType p.found "any YAML value")
  | .real d => .ok (real d)
  | .text s => .ok (text s)

/-- The step to the value of a key. -/
def stepTo : Node → Step
  | .scalar _ _ name => .key name
  | _ => .unknown

/-- The node itself, or the one that it refers to. -/
def follow (d : Document) (n : Node) : Option Node :=
  match n with
  | .alias target => d.target? target
  | n => some n

/-- The name of a tag of the document's own. -/
def localTag? (p : Properties) : Option String :=
  match p.tag with
  | some tag =>
    match tag.toList with
    | '!' :: rest => some (if rest.isEmpty then tag else String.ofList rest)
    | _ => none
  | none => none

/-- Adds an entry unless its key is there already. -/
def addKey (entries : List (Value × Value)) (key : Value) : Except Problem Unit :=
  if entries.any fun e => e.1 == key then .error (.duplicateEntry (describeKey key)) else .ok ()

/-- A reading that counts the aliases it follows. -/
abbrev Walk := StateT Nat (Except Located)

/-- The node itself, or the one that it refers to. A document's aliases are followed so often only. -/
def visit (d : Document) (path : Path) (n : Node) : Walk Node := do
  if n.isAlias then
    if d.aliasLimit ≤ (← get) then throw ⟨[], .tooRepetitive⟩
    modify (· + 1)
  match follow d n with
  | none => throw ⟨path, .endOfText⟩
  | some n => pure n

/-- The data of a node whose tag has been dealt with. Collections may stand in one another up to
`depth`. -/
def untagged (d : Document) : (depth : Nat) → (ignoreTag : Bool) → Path → Node → Walk Value
  | depth, ignoreTag, path, n =>
    match n with
    | .alias _ => throw ⟨path, .endOfText⟩
    | .scalar p style s =>
      match (Plain.ofScalar ignoreTag p style s).bind ofPlain with
      | .ok v => pure v
      | .error e => throw ⟨path, e⟩
    | .sequence _ items =>
      match depth with
      | 0 => throw ⟨[], .tooDeep⟩
      | depth + 1 => do
        let values ← items.zipIdx.mapM fun (item, i) => inner depth (.index i :: path) item
        pure (.sequence values)
    | .mapping _ entries =>
      match depth with
      | 0 => throw ⟨[], .tooDeep⟩
      | depth + 1 => do
        let values ← entries.foldlM (fun done (k, v) => do
          let key ← inner depth path k
          match addKey done key with
          | .error e => throw ⟨path, e⟩
          | .ok () =>
            let value ← inner depth (stepTo k :: path) v
            pure ((key, value) :: done)) []
        pure (.mapping values.reverse)
where
  /-- The data of any node. -/
  inner (depth : Nat) (path : Path) (n : Node) : Walk Value := do
    match ← visit d path n with
    | n@(.scalar p _ _) | n@(.sequence p _) | n@(.mapping p _) =>
      match localTag? p with
      | some tag => .tagged tag <$> untagged d depth true path n
      | none => untagged d depth false path n
    | .alias _ => throw ⟨path, .endOfText⟩

/-- The data of a node inside collections that leave room for `depth` more, when `followed` aliases have
been followed before. -/
def ofNode (d : Document) (depth followed : Nat) (path : Path) (n : Node) : Except Located Value :=
  (untagged.inner d depth path n).run' followed

/-- How deep collections may stand in one another. -/
def depthLimit : Nat := 128

/-- The data of a document; a text that holds nothing is null. -/
def ofDocument (d : Document) : Except Located Value :=
  match d.root with
  | none => .ok .null
  | some n => ofNode d depthLimit 0 [] n

/-! ## As a source of records -/

/-- The value without its tags. -/
def untag : Value → Value
  | tagged _ v => untag v
  | v => v

def found : Value → Found
  | null => .unit
  | bool b => .bool b
  | integer i => .integer i
  | real d => .real d
  | text s => .text s
  | sequence _ => .sequence
  | mapping _ => .map
  | tagged .. => .variant

def wrong {α : Type} (v : Value) (expected : String) : Except Problem α :=
  .error (.invalidType v.found expected)

def isNull : Value → Bool
  | null => true
  | _ => false

def readText (expected : String) (v : Value) : Except Problem String :=
  match v.untag with
  | text s => .ok s
  | v => v.wrong expected

def readBool (v : Value) : Except Problem Bool :=
  match v.untag with
  | bool b => .ok b
  | v => v.wrong "a boolean"

def readUnsigned (limit : Nat) (expected : String) (v : Value) : Except Problem Nat :=
  match v.untag with
  | integer i =>
    if 0 ≤ i && i.toNat < limit then .ok i.toNat
    else .error (.invalidValue (.integer i) expected)
  | v => v.wrong expected

def readItems (v : Value) : Except Problem (List Value) :=
  match v.untag with
  | sequence items => .ok items
  | null => .ok []
  | v => v.wrong "a sequence"

def readEntries (expected : String) (v : Value) : Except Problem (List (Value × Value)) :=
  match v.untag with
  | mapping entries => .ok entries
  | null => .ok []
  | v => v.wrong expected

def readVariant (names : List String) (v : Value) : Except Problem String := do
  let name ← v.readText "a variant"
  if names.contains name then pure name else throw (.unknownVariant name names)

instance : Record.Source Value Problem where
  fail _ p := p
  text := readText
  bool := readBool
  unsigned := readUnsigned
  optional v := .ok (if v.isNull then none else some v)
  items := readItems
  fields expected _ v := v.readEntries expected
  variant := readVariant

end Value

end Preseed.Yaml

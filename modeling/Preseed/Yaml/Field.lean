import Preseed.Yaml.Value

/-!
# Records read from a text

A field of a document as it is written. Into a text field every scalar goes verbatim; truth values and
numbers are read from plain scalars only. Problems carry the path to the field.
-/

namespace Preseed.Yaml

open Record (Problem)

/-- A node of a document and the path to it; no node where nothing is written at all. -/
structure Field where
  document : Document
  node : Option Node
  path : Path := []

namespace Field

def ofDocument (d : Document) : Field :=
  { document := d, node := d.root }

/-- The node, or the one that it refers to. -/
def target (f : Field) : Option Node :=
  f.node.bind (Value.follow f.document)

def fail {α : Type} (f : Field) (p : Problem) : Except Located α :=
  .error ⟨f.path, p⟩

/-- The fault of something else than expected. -/
def wrong {α : Type} (f : Field) (expected : String) : Except Located α :=
  match f.target with
  | some (.scalar p style s) =>
    match Plain.ofScalar false p style s with
    | .ok plain => f.fail (.invalidType plain.found expected)
    | .error e => f.fail e
  | some (.sequence ..) => f.fail (.invalidType .sequence expected)
  | some (.mapping ..) => f.fail (.invalidType .map expected)
  | _ => f.fail .endOfText

/-- The text of a scalar that may be a truth value or a number: it is plain, or a literal block with the
tag that asks for one. -/
def plainText? (f : Field) (tag : String) : Option String :=
  match f.target with
  | some (.scalar p style s) =>
    if style = .plain || (style = .literal && p.tag = some tag) then some s else none
  | _ => none

/-- Nothing is written for the value. -/
def isBlank (f : Field) : Bool :=
  match f.target with
  | none => true
  | some (.scalar _ style s) => style = .plain && s.isEmpty
  | some _ => false

def text (expected : String) (f : Field) : Except Located String :=
  match f.target with
  | some (.scalar _ _ s) => .ok s
  | _ => f.wrong expected

def bool (f : Field) : Except Located Bool :=
  match (f.plainText? Plain.boolTag).bind Plain.bool? with
  | some b => .ok b
  | none => f.wrong "a boolean"

def unsigned (limit : Nat) (expected : String) (f : Field) : Except Located Nat :=
  match (f.plainText? Plain.intTag).bind fun s => Plain.unsigned? (Nat.pow 2 64) s.toList with
  | some n => if n < limit then .ok n else f.fail (.invalidValue (.integer n) expected)
  | none => f.wrong expected

/-- The field, unless it is null. A tag that asks for null on anything else is the enclosing record's
fault. -/
def optional (f : Field) : Except Located (Option Field) :=
  match f.target with
  | none => .ok none
  | some (.scalar p style s) =>
    if style ≠ .plain then .ok (some f)
    else
      match p.tag with
      | some tag =>
        if tag = Plain.nullTag then
          if Plain.isNull s then .ok none
          else .error ⟨f.path.tail, .invalidValue (.text s) "null"⟩
        else .ok (some f)
      | none => .ok (if s.isEmpty || Plain.isNull s then none else some f)
  | some _ => .ok (some f)

/-- The field of a node inside this one. -/
def inside (f : Field) (step : Step) (n : Node) : Field :=
  { f with node := some n, path := step :: f.path }

def items (f : Field) : Except Located (List Field) :=
  match f.target with
  | some (.sequence _ items) => .ok (items.zipIdx.map fun (n, i) => f.inside (.index i) n)
  | _ => if f.isBlank then .ok [] else f.wrong "a sequence"

def entries (expected : String) (f : Field) : Except Located (List (Field × Field)) :=
  match f.target with
  | some (.mapping _ entries) =>
    .ok (entries.map fun (k, v) => ({ f with node := some k }, f.inside (Value.stepTo k) v))
  | _ => if f.isBlank then .ok [] else f.wrong expected

/-- The name of a variant: a scalar, or a local tag on nothing. -/
def variant (names : List String) (f : Field) : Except Located String := do
  let known (name : String) : Except Located String :=
    if names.contains name then .ok name else f.fail (.unknownVariant name names)
  match f.target with
  | some (.scalar p style s) =>
    match Value.localTag? p with
    | some tag =>
      let name ← known tag
      if style = .plain && (s.isEmpty || Plain.isNull s) then pure name
      else f.fail (.invalidValue (.text s) "null")
    | none => known s
  | some (.sequence p _) | some (.mapping p _) =>
    match Value.localTag? p with
    | some tag =>
      let _ ← known tag
      f.wrong "unit"
    | none => f.wrong "a YAML tag starting with '!'"
  | _ => f.fail .endOfText

instance : Record.Source Field Located where
  fail f p := ⟨f.path, p⟩
  text := text
  bool := bool
  unsigned := unsigned
  optional := optional
  items := items
  fields expected _ f := f.entries expected
  variant := variant

/-- The resolved data of the field; `followed` aliases of the document are followed elsewhere. -/
def value (followed : Nat) (f : Field) : Except Located Value :=
  match f.node with
  | none => .ok .null
  | some n => Value.ofNode f.document (Value.depthLimit - f.path.length) followed f.path n

end Field

end Preseed.Yaml

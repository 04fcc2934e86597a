import Preseed.Record.Problem

/-!
# Reading records

A source offers typed data; a record is read from the fields that a source gives, in their order. The
same descriptions of records are read from the text of a document, from resolved values and from layered
settings.
-/

namespace Preseed.Record

/-- A source `ν` of typed data, with faults `φ`. -/
class Source (ν : Type) (φ : outParam Type) where
  /-- The fault that a problem with this value is. -/
  fail : ν → Problem → φ
  /-- A text; `expected` names it for a fault. -/
  text : (expected : String) → ν → Except φ String
  bool : ν → Except φ Bool
  /-- A number below a limit; `expected` names the range for a fault. -/
  unsigned : (limit : Nat) → (expected : String) → ν → Except φ Nat
  /-- The value, unless it is null. -/
  optional : ν → Except φ (Option ν)
  items : ν → Except φ (List ν)
  /-- The keys and values of a record with the given fields. -/
  fields : (expected : String) → (names : List String) → ν → Except φ (List (ν × ν))
  /-- The name of one of several variants. -/
  variant : (names : List String) → ν → Except φ String

/-- The shape of a record. -/
structure Shape where
  /-- What a fault calls the record. -/
  expected : String
  names : List String
  /-- The fields that have no default. -/
  required : List String := []
  /-- Whether other fields are refused; they are ignored otherwise. -/
  closed : Bool := false

variable {ν φ α : Type} [Source ν φ]

/-- Reads the fields one after the other; `seen` holds the names met so far. -/
def readFields (shape : Shape) (set : α → String → ν → Except φ α) (whole : ν) :
    List (ν × ν) → List String → α → Except φ (α × List String)
  | [], seen, a => .ok (a, seen)
  | (key, value) :: rest, seen, a => do
    let name ← Source.text "field identifier" key
    if shape.names.contains name then
      if seen.contains name then throw (Source.fail whole (.duplicateField name))
      else
        let a ← set a name value
        readFields shape set whole rest (name :: seen) a
    else if shape.closed then throw (Source.fail whole (.unknownField name shape.names))
    else readFields shape set whole rest seen a

/-- Reads a record: `start` holds the defaults and `set` takes over one field. -/
def read (shape : Shape) (start : α) (set : α → String → ν → Except φ α) (whole : ν) :
    Except φ α := do
  let entries ← Source.fields shape.expected shape.names whole
  let (a, seen) ← readFields shape set whole entries [] start
  match shape.required.find? fun name => !seen.contains name with
  | some name => throw (Source.fail whole (.missingField name))
  | none => pure a

def text (v : ν) : Except φ String :=
  Source.text "a string" v

/-- A text, unless null stands in its place. -/
def optionalText (v : ν) : Except φ (Option String) := do
  match ← Source.optional v with
  | none => pure none
  | some v => some <$> text v

/-- Reads every item of a list. -/
def list (item : ν → Except φ α) (v : ν) : Except φ (List α) := do
  (← Source.items v).mapM item

end Preseed.Record

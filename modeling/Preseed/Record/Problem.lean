import Preseed.Number.Double
import Preseed.Text.Quoted

/-!
# What can be wrong with data

The causes for which typed data is refused, and their wording.
-/

namespace Preseed.Record

/-- What was found in the place of something else. -/
inductive Found where
  | unit
  | bool (b : Bool)
  | integer (i : Int)
  /-- An integer beyond 64 bits. -/
  | wideInteger (i : Int)
  | real (d : Double)
  | text (s : String)
  | sequence
  | map
  | variant
  deriving DecidableEq, Repr

namespace Found

def quoted (s : String) : String :=
  "\x60" ++ s ++ "\x60"

protected def toString : Found → String
  | unit => "unit value"
  | bool b => "boolean " ++ quoted (if b then "true" else "false")
  | integer i => "integer " ++ quoted (toString i)
  | wideInteger i =>
    "integer " ++ quoted (toString i) ++ " as " ++ (if i < 0 then "i128" else "u128")
  | real d => "floating point " ++ quoted (d.toText true)
  | text s => "string " ++ Quoted.encode s
  | sequence => "sequence"
  | map => "map"
  | variant => "enum"

end Found

inductive Problem where
  /-- A value of another kind than the expected one. -/
  | invalidType (found : Found) (expected : String)
  /-- A value of the expected kind that does not fit. -/
  | invalidValue (found : Found) (expected : String)
  | missingField (name : String)
  | duplicateField (name : String)
  | unknownField (name : String) (known : List String)
  | unknownVariant (name : String) (known : List String)
  /-- A key that a mapping has already; the key is described. -/
  | duplicateEntry (key : String)
  | emptyTag
  /-- Nothing is there at all. -/
  | endOfText
  /-- Collections stand in one another too deeply. -/
  | tooDeep
  /-- Aliases are followed too often. -/
  | tooRepetitive
  deriving DecidableEq, Repr

namespace Problem

/-- The choices that there are. -/
def choices (names : List String) : String :=
  match names.map Found.quoted with
  | [] => "nothing"
  | [a] => a
  | [a, b] => a ++ " or " ++ b
  | all => "one of " ++ ", ".intercalate all

def message : Problem → String
  | invalidType found expected => "invalid type: " ++ found.toString ++ ", expected " ++ expected
  | invalidValue found expected => "invalid value: " ++ found.toString ++ ", expected " ++ expected
  | missingField name => "missing field " ++ Found.quoted name
  | duplicateField name => "duplicate field " ++ Found.quoted name
  | unknownField name known =>
    "unknown field " ++ Found.quoted name ++ ", expected " ++ choices known
  | unknownVariant name known =>
    "unknown variant " ++ Found.quoted name ++ ", expected " ++ choices known
  | duplicateEntry key => "duplicate entry " ++ key
  | emptyTag => "empty YAML tag is not allowed"
  | endOfText => "EOF while parsing a value"
  | tooDeep => "recursion limit exceeded"
  | tooRepetitive => "repetition limit exceeded"

end Problem

end Preseed.Record

import Preseed.Text.Ascii
import Preseed.Text.Utf8

/-!
# Header fields

The fields of a request by their names in small letters. A name stands where it appeared first, with all
its values in order.
-/

namespace Preseed

/-- Names in small letters, each with at least one value. -/
abbrev Headers := List (String × List Bytes)

namespace Headers

/-- Adds a value behind the others of its name. -/
def add (headers : Headers) (name : String) (value : Bytes) : Headers :=
  match headers with
  | [] => [(Ascii.lower name, [value])]
  | (n, values) :: rest =>
    if n = Ascii.lower name then (n, values ++ [value]) :: rest
    else (n, values) :: add rest name value

def ofList (fields : List (String × Bytes)) : Headers :=
  fields.foldl (fun headers (name, value) => headers.add name value) []

/-- The first value of a name in small letters. -/
def first? (headers : Headers) (name : String) : Option Bytes :=
  (headers.lookup name).bind List.head?

/-- Makes a value the only one of its name. -/
def set (headers : Headers) (name : String) (value : Bytes) : Headers :=
  match headers with
  | [] => [(name, [value])]
  | (n, values) :: rest =>
    if n = name then (n, [value]) :: rest else (n, values) :: set rest name value

/-- Every value with its name, faults in the encoding replaced. -/
def toList (headers : Headers) : List (String × String) :=
  headers.flatMap fun (name, values) => values.map fun v => (name, Utf8.toStringLossy v)

/-- A character that can be seen, a space or a tab. -/
def isVisible (b : UInt8) : Bool :=
  b == 0x09 || (0x20 ≤ b && b < 0x7F)

/-- The first value of a name as text; none if any of its characters is not visible ASCII. -/
def text? (headers : Headers) (name : String) : Option String :=
  match headers.first? name with
  | some value => if value.all isVisible then some (Utf8.toStringLossy value) else none
  | none => none

end Headers

end Preseed

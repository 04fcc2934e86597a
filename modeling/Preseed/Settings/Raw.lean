import Preseed.Number.Double
import Preseed.Record.Source

/-!
# Raw settings

A setting as a file or the environment gives it. Since the environment holds texts only, a raw setting
is converted to the type that is asked for: truth values, numbers and texts stand for one another where
that makes sense.
-/

namespace Preseed

open Record (Found Problem)

inductive RawSetting where
  | null
  | bool (b : Bool)
  | integer (i : Int)
  | real (d : Double)
  | text (s : String)
  | list (items : List RawSetting)
  | table (entries : List (String × RawSetting))
  deriving Inhabited

namespace RawSetting

def found : RawSetting → Found
  | null => .unit
  | bool b => .bool b
  | integer i => .integer i
  | real d => .real d
  | text s => .text s
  | list _ => .sequence
  | table _ => .map

def wrong {α : Type} (v : RawSetting) (expected : String) : Except Problem α :=
  .error (.invalidType v.found expected)

def boolText (b : Bool) : String :=
  if b then "true" else "false"

def toText (expected : String) : RawSetting → Except Problem String
  | bool b => .ok (boolText b)
  | integer i => .ok (toString i)
  | real d => .ok (d.toText false)
  | text s => .ok s
  | v => v.wrong expected

/-- The truth value that a word stands for. -/
def wordBool? (word : String) : Option Bool :=
  if word ∈ ["true", "on", "yes"] then some true
  else if word ∈ ["false", "off", "no"] then some false
  else none

def textBool? (s : String) : Option Bool :=
  let word := Ascii.lower s
  if word = "1" then some true else if word = "0" then some false else wordBool? word

def toBool (v : RawSetting) : Except Problem Bool :=
  match v with
  | bool b => .ok b
  | integer i => .ok (i != 0)
  | real (.finite _ m _) => .ok (m != 0)
  | real _ => .ok true
  | text s =>
    match textBool? s with
    | some b => .ok b
    | none => v.wrong "a boolean"
  | _ => v.wrong "a boolean"

def boolNumber (b : Bool) : Nat :=
  if b then 1 else 0

/-- The number that a text writes or a word stands for. -/
def textNumber? (s : String) : Option Nat :=
  match wordBool? (Ascii.lower s) with
  | some b => some (boolNumber b)
  | none =>
    let digits := match s.toList with
      | '+' :: digits => digits
      | digits => digits
    if digits.isEmpty then none else (Ascii.number? 10 digits).filter (· < Nat.pow 2 64)

def toNumber? : RawSetting → Option Nat
  | bool b => some (boolNumber b)
  | integer i => if 0 ≤ i then some i.toNat else none
  | real d => some d.toUnsigned64
  | text s => textNumber? s
  | _ => none

def toUnsigned (limit : Nat) (expected : String) (v : RawSetting) : Except Problem Nat :=
  match v.toNumber? with
  | none => v.wrong expected
  | some n => if n < limit then .ok n else .error (.invalidValue (.integer n) expected)

def isNull : RawSetting → Bool
  | null => true
  | _ => false

def toItems : RawSetting → Except Problem (List RawSetting)
  | list items => .ok items
  | v => v.wrong "a sequence"

/-- The entries of a table; the items of a list stand for the fields in their order. -/
def toFields (expected : String) (names : List String) :
    RawSetting → Except Problem (List (RawSetting × RawSetting))
  | table entries => .ok (entries.map fun (key, v) => (text key, v))
  | list items => .ok ((names.map text).zip items)
  | v => v.wrong expected

/-- A variant's name in any case, or a table whose only key is one. -/
def toVariant (names : List String) (v : RawSetting) : Except Problem String :=
  let known (word : String) : Except Problem String :=
    match names.find? (Ascii.eqIgnoreCase · word) with
    | some name => .ok name
    | none => .error (.unknownVariant word names)
  match v with
  | text word => known word
  | table [(word, _)] => known word
  | v => v.wrong "a variant"

instance : Record.Source RawSetting Problem where
  fail _ p := p
  text := toText
  bool := toBool
  unsigned := toUnsigned
  optional v := .ok (if v.isNull then none else some v)
  items := toItems
  fields := toFields
  variant := toVariant

/-! ## Tables -/

def get? (key : String) : RawSetting → Option RawSetting
  | table entries => entries.lookup key
  | _ => none

/-- The entries with one of them replaced or added. -/
def putEntry (key : String) (v : RawSetting) : List (String × RawSetting) → List (String × RawSetting)
  | [] => [(key, v)]
  | (k, old) :: rest => if k = key then (k, v) :: rest else (k, old) :: putEntry key v rest

/-- Replaces or adds an entry; anything else than a table gives way to one. -/
def put (whole : RawSetting) (key : String) (v : RawSetting) : RawSetting :=
  match whole with
  | table entries => table (putEntry key v entries)
  | _ => table [(key, v)]

end RawSetting

end Preseed

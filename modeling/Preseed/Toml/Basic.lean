import Preseed.Number.Double
import Preseed.Toml.Moment
import Preseed.Toml.Text

/-!
# TOML

The values of TOML texts, and who may add to a table: a table is opened by one header, may be opened after
the tables inside it, and takes a key with points only if such keys made it.
-/

namespace Preseed

inductive Toml where
  | bool (b : Bool)
  | integer (i : Int)
  | real (d : Double)
  | text (s : String)
  /-- A date or a time. -/
  | moment (s : String)
  | array (items : List Toml)
  | table (entries : List (String × Toml))
  deriving Inhabited

namespace Toml

/-! ## Words -/

/-- Digits with single underscores between them, without these. -/
def digits? (isDigit : Char → Bool) (cs : List Char) : Option (List Char) :=
  let parts := Split.pieces '_' cs
  if parts.all fun part => !part.isEmpty && part.all isDigit then some parts.flatten else none

/-- A number in a base with a mark of its own. -/
def based? (base : Nat) (cs : List Char) : Option Int := do
  let digits ← digits? Ascii.isHexDigit cs
  let n ← Ascii.number? base digits
  if n < Nat.pow 2 63 then some n else none

/-- The sign, if it is written, and the rest. -/
def cutSign : List Char → List Char × List Char
  | '-' :: rest => (['-'], rest)
  | '+' :: rest => (['+'], rest)
  | rest => ([], rest)

/-- Decimal digits of a whole number: a zero in front stands alone. -/
def whole? (cs : List Char) : Option (List Char) :=
  (digits? Ascii.isDigit cs).filter fun ds => ds.length = 1 || ds.head? != some '0'

def decimal? (cs : List Char) : Option Int := do
  let (sign, body) := cutSign cs
  let n ← Ascii.number? 10 (← whole? body)
  if sign = ['-'] then if n ≤ Nat.pow 2 63 then some (-(n : Int)) else none
  else if n < Nat.pow 2 63 then some n else none

def integer? : List Char → Option Int
  | '0' :: 'x' :: cs => based? 16 cs
  | '0' :: 'o' :: cs => based? 8 cs
  | '0' :: 'b' :: cs => based? 2 cs
  | cs => decimal? cs

def isExponentMark (c : Char) : Bool :=
  c = 'e' || c = 'E'

/-- The digits of an exponent behind its mark. -/
def exponent? (cs : List Char) : Option (List Char) :=
  let (sign, body) := cutSign cs
  (digits? Ascii.isDigit body).map fun ds => 'e' :: (sign ++ ds)

/-- The digits of a decimal with a point, with an exponent, or with both. -/
def decimalDigits? (cs : List Char) : Option (List Char) := do
  let mantissa := cs.takeWhile (!isExponentMark ·)
  let exponent ← match cs.dropWhile (!isExponentMark ·) with
    | [] => some []
    | _ :: cs => exponent? cs
  match Split.cut? '.' mantissa with
  | some (whole, fraction) =>
    some ((← whole? whole) ++ '.' :: ((← digits? Ascii.isDigit fraction) ++ exponent))
  | none => if exponent.isEmpty then none else some ((← whole? mantissa) ++ exponent)

def real? (cs : List Char) : Option Double :=
  let (sign, body) := cutSign cs
  if body = "inf".toList then some (.infinity (sign = ['-']))
  else if body = "nan".toList then some .nan
  else
    ((decimalDigits? body).bind fun digits => Double.ofChars? (sign ++ digits)).filter
      (· ≠ .infinity false)

/-- The value of a word without quotes. -/
def ofWord? (cs : List Char) : Option Toml :=
  if cs = "true".toList then some (bool true)
  else if cs = "false".toList then some (bool false)
  else
    match Moment.ofWord? cs with
    | some m => some (moment (String.ofList m))
    | none =>
      match integer? cs with
      | some i => some (integer i)
      | none => (real? cs).map real

def isWordChar (c : Char) : Bool :=
  Ascii.isAlphanumeric c || c ∈ ['+', '-', '.', '_', ':']

/-- A value without quotes at the beginning of a text. A single space may part a date from its time. -/
def word? (cs : List Char) : Option (Toml × List Char) :=
  let word := cs.takeWhile isWordChar
  let rest := cs.dropWhile isWordChar
  let time := match rest with
    | ' ' :: more =>
      if Moment.isDate word then Moment.timeWithOffset? (more.takeWhile isWordChar) else none
    | _ => none
  match time with
  | some time => some (moment (String.ofList (word ++ 'T' :: time)), (rest.drop 1).dropWhile isWordChar)
  | none => (ofWord? word).map fun v => (v, rest)

/-! ## Tables -/

/-- How a table came to be. -/
inductive Origin where
  /-- By a header of its own. -/
  | header
  /-- By the header of a table inside it. -/
  | inside
  /-- By a key with points. -/
  | key
  deriving DecidableEq, Repr

/-- What a name stands for while a text is read. -/
inductive Slot where
  | value (v : Toml)
  | table (origin : Origin) (slots : List (String × Slot))
  /-- An array of tables, the last one first. -/
  | tables (slots : List (List (String × Slot)))
  deriving Inhabited

abbrev Slots := List (String × Slot)

namespace Slot

mutual

def toToml : Slot → Toml
  | value v => v
  | table _ slots => .table (entries slots)
  | tables all => .array (items all).reverse

def entries : List (String × Slot) → List (String × Toml)
  | [] => []
  | (name, s) :: rest => (name, toToml s) :: entries rest

def items : List (List (String × Slot)) → List Toml
  | [] => []
  | slots :: rest => .table (entries slots) :: items rest

end

end Slot

namespace Slots

/-- Replaces or adds what a name stands for. -/
def put (name : String) (s : Slot) : Slots → Slots
  | [] => [(name, s)]
  | (n, old) :: rest => if n = name then (n, s) :: rest else (n, old) :: put name s rest

/-- Changes the table that a way of names leads to. Tables that are missing on the way are made; one made
by a header is closed to keys with points. -/
def change? (made : Origin) (change : Origin → Slots → Option Slots) :
    List String → Origin → Slots → Option Slots
  | [], origin, slots => change origin slots
  | name :: names, _, slots =>
    match slots.lookup name with
    | none => (change? made change names made []).map fun inner => put name (.table made inner) slots
    | some (.table origin inner) =>
      if made = .key && origin = .header then none
      else
        (change? made change names origin inner).map fun inner =>
          put name (.table origin inner) slots
    | some (.tables (last :: before)) =>
      (change? made change names .header last).map fun last =>
        put name (.tables (last :: before)) slots
    | some _ => none

/-- Adds a value under a key to a table. -/
def add? (key : List String) (v : Toml) (slots : Slots) : Option Slots :=
  match key.getLast? with
  | none => none
  | some name =>
    let set (origin : Origin) (slots : Slots) : Option Slots :=
      if (key.length > 1 && origin ≠ .key) || (slots.lookup name).isSome then none
      else some (put name (.value v) slots)
    change? .key set key.dropLast .header slots

/-- Adds a value under a key to the table of a header. -/
def addUnder? (header key : List String) (v : Toml) (slots : Slots) : Option Slots :=
  change? .inside (fun _ slots => add? key v slots) header .header slots

/-- Opens the table of a header. -/
def openTable? (header : List String) (slots : Slots) : Option Slots :=
  match header.getLast? with
  | none => none
  | some name =>
    let set (_ : Origin) (slots : Slots) : Option Slots :=
      match slots.lookup name with
      | none => some (put name (.table .header []) slots)
      | some (.table .inside inner) => some (put name (.table .header inner) slots)
      | some _ => none
    change? .inside set header.dropLast .header slots

/-- Opens a further table of an array. -/
def openItem? (header : List String) (slots : Slots) : Option Slots :=
  match header.getLast? with
  | none => none
  | some name =>
    let set (_ : Origin) (slots : Slots) : Option Slots :=
      match slots.lookup name with
      | none => some (put name (.tables [[]]) slots)
      | some (.tables all) => some (put name (.tables ([] :: all)) slots)
      | some _ => none
    change? .inside set header.dropLast .header slots

end Slots

/-! ## Values -/

/-- Past a comment. -/
def skipComment (cs : List Char) : List Char :=
  match cs with
  | '#' :: rest => rest.dropWhile isPlain
  | cs => cs

/-- Past white space, line breaks and comments. -/
def skipBlank : Nat → List Char → List Char
  | 0, cs => cs
  | fuel + 1, cs =>
    let rest := skipComment (skipSpaces cs)
    match lineBreak? rest with
    | some rest => skipBlank fuel rest
    | none => rest

/-- The key and the sign in front of a value. -/
def keySign? (cs : List Char) : Option (List String × List Char) := do
  let (key, rest) ← key? (cs.length + 1) cs
  match rest with
  | '=' :: rest => some (key, skipSpaces rest)
  | _ => none

mutual

/-- Reads a value. -/
def value? : Nat → List Char → Option (Toml × List Char)
  | 0, _ => none
  | fuel + 1, cs =>
    match cs with
    | '"' :: rest => (Quoted.read? '"' rest).map fun (s, rest) => (text (String.ofList s), rest)
    | '\'' :: rest => (Quoted.read? '\'' rest).map fun (s, rest) => (text (String.ofList s), rest)
    | '[' :: rest => (items? fuel rest).map fun (items, rest) => (array items, rest)
    | '\x7b' :: rest =>
      match skipSpaces rest with
      | '\x7d' :: rest => some (table [], rest)
      | rest => (pairs? fuel rest []).map fun (slots, rest) => (table (Slot.entries slots), rest)
    | cs => word? cs

/-- Reads the items of an array and its end. -/
def items? : Nat → List Char → Option (List Toml × List Char)
  | 0, _ => none
  | fuel + 1, cs =>
    match skipBlank (cs.length + 1) cs with
    | ']' :: rest => some ([], rest)
    | cs => do
      let (item, rest) ← value? fuel cs
      match skipBlank (rest.length + 1) rest with
      | ']' :: rest => some ([item], rest)
      | ',' :: rest =>
        let (items, rest) ← items? fuel rest
        some (item :: items, rest)
      | _ => none

/-- Reads the pairs of a table on one line and its end. -/
def pairs? : Nat → List Char → Slots → Option (Slots × List Char)
  | 0, _, _ => none
  | fuel + 1, cs, slots => do
    let (key, rest) ← keySign? cs
    let (v, rest) ← value? fuel rest
    let slots ← slots.add? key v
    match skipSpaces rest with
    | '\x7d' :: rest => some (slots, rest)
    | ',' :: rest => pairs? fuel rest slots
    | _ => none

end

/-! ## The whole text -/

/-- Past the end of a line, with a comment before it. -/
def endLine? (cs : List Char) : Option (List Char) :=
  match skipComment (skipSpaces cs) with
  | [] => some []
  | rest => lineBreak? rest

/-- Reads one header or one key with its value; `header` is the one in force. -/
def line? (header : List String) (slots : Slots) (cs : List Char) :
    Option (List String × Slots × List Char) :=
  match cs with
  | '[' :: '[' :: rest => do
    let (header, rest) ← key? (rest.length + 1) rest
    match rest with
    | ']' :: ']' :: rest => some (header, ← slots.openItem? header, ← endLine? rest)
    | _ => none
  | '[' :: rest => do
    let (header, rest) ← key? (rest.length + 1) rest
    match rest with
    | ']' :: rest => some (header, ← slots.openTable? header, ← endLine? rest)
    | _ => none
  | cs => do
    let (key, rest) ← keySign? cs
    let (v, rest) ← value? (rest.length + 1) rest
    some (header, ← slots.addUnder? header key v, ← endLine? rest)

def lines? : Nat → List String → Slots → List Char → Option Slots
  | 0, _, _, _ => none
  | fuel + 1, header, slots, cs =>
    match skipBlank (cs.length + 1) cs with
    | [] => some slots
    | cs => do
      let (header, slots, rest) ← line? header slots cs
      lines? fuel header slots rest

/-- The entries of the table that a text holds. -/
def ofText? (source : String) : Option (List (String × Toml)) :=
  let cs := source.toList
  (lines? (cs.length + 1) [] [] cs).map Slot.entries

end Toml

end Preseed

import Preseed.Record.Problem
import Preseed.Yaml.Node

/-!
# What a scalar means

A plain scalar may be null, a truth value, a whole or a real number by its spelling; a tag may ask for
one of them. Everything else is text.
-/

namespace Preseed.Yaml

open Record (Found Problem)

/-- The meaning of a scalar. -/
inductive Plain where
  | null
  | bool (b : Bool)
  /-- Of 64 bits, with or without sign. -/
  | integer (i : Int)
  /-- Of 128 bits. -/
  | wideInteger (i : Int)
  | real (d : Double)
  | text (s : String)
  deriving DecidableEq, Repr

namespace Plain

def found : Plain → Found
  | null => .unit
  | bool b => .bool b
  | integer i => .integer i
  | wideInteger i => .wideInteger i
  | real d => .real d
  | text s => .text s

def isNull (s : String) : Bool :=
  s ∈ ["null", "Null", "NULL", "~"]

def bool? (s : String) : Option Bool :=
  if s ∈ ["true", "True", "TRUE"] then some true
  else if s ∈ ["false", "False", "FALSE"] then some false
  else none

/-- Digits with a needless zero in front, which are text. -/
def hasLeadingZero (cs : List Char) : Bool :=
  let digits := match cs with
    | '-' :: rest => rest
    | '+' :: rest => rest
    | rest => rest
  digits.length > 1 && digits.head? == some '0' && digits.all Ascii.isDigit

/-- One or more digits of a base. -/
def digits? (base : Nat) (cs : List Char) : Option Nat :=
  if cs.isEmpty then none else Ascii.number? base cs

/-- A number whose base a letter after a zero tells. -/
def based? (cs : List Char) : Option Nat :=
  match cs with
  | '0' :: 'x' :: rest => digits? 16 rest
  | '0' :: 'o' :: rest => digits? 8 rest
  | '0' :: 'b' :: rest => digits? 2 rest
  | _ => none

/-- A number without minus sign below a limit. -/
def unsigned? (limit : Nat) (cs : List Char) : Option Nat :=
  let body := match cs with
    | '+' :: rest => rest
    | rest => rest
  match (based? body).filter (· < limit) with
  | some n => some n
  | none => if hasLeadingZero cs then none else (digits? 10 body).filter (· < limit)

/-- A number with minus sign whose magnitude is within a limit. -/
def negative? (limit : Nat) (cs : List Char) : Option Int :=
  match cs with
  | '-' :: body =>
    let n := match (based? body).filter (· ≤ limit) with
      | some n => some n
      | none => if hasLeadingZero cs then none else (digits? 10 body).filter (· ≤ limit)
    n.map fun n => -(n : Int)
  | _ => none

/-- A whole number of at most 128 bits. -/
def integer? (cs : List Char) : Option Plain :=
  match unsigned? (Nat.pow 2 64) cs with
  | some n => some (.integer n)
  | none =>
    match negative? (Nat.pow 2 63) cs with
    | some i => some (.integer i)
    | none =>
      match unsigned? (Nat.pow 2 128) cs with
      | some n => some (.wideInteger n)
      | none => (negative? (Nat.pow 2 127) cs).map .wideInteger

/-- A real number: a finite decimal, or one of the spellings that begin with a point. -/
def real? (s : String) : Option Double :=
  if s ∈ [".inf", ".Inf", ".INF", "+.inf", "+.Inf", "+.INF"] then some (.infinity false)
  else if s ∈ ["-.inf", "-.Inf", "-.INF"] then some (.infinity true)
  else if s ∈ [".nan", ".NaN", ".NAN"] then some .nan
  else (Double.ofChars? s.toList).filter Double.isFinite

/-- The meaning of a scalar without quotes and tag. -/
def ofText (s : String) : Plain :=
  if s.isEmpty || isNull s then .null
  else
    match bool? s with
    | some b => .bool b
    | none =>
      match integer? s.toList with
      | some p => p
      | none =>
        match if hasLeadingZero s.toList then none else real? s with
        | some d => .real d
        | none => .text s

def boolTag : String := "tag:yaml.org,2002:bool"

def intTag : String := "tag:yaml.org,2002:int"

def floatTag : String := "tag:yaml.org,2002:float"

def nullTag : String := "tag:yaml.org,2002:null"

/-- A tag of the document's own. -/
def isLocal (tag : String) : Bool :=
  tag.toList.head? == some '!'

/-- The meaning that a tag asks for, or what is wrong with the text. -/
def tagged (tag : String) (style : ScalarStyle) (s : String) : Except Problem Plain :=
  let wrong (expected : String) : Except Problem Plain := .error (.invalidValue (.text s) expected)
  if tag = boolTag then
    match bool? s with
    | some b => .ok (.bool b)
    | none => wrong "a boolean"
  else if tag = intTag then
    match integer? s.toList with
    | some p => .ok p
    | none => wrong "an integer"
  else if tag = floatTag then
    match real? s with
    | some d => .ok (.real d)
    | none => wrong "a float"
  else if tag = nullTag then if isNull s then .ok .null else wrong "null"
  else if isLocal tag && style = .plain then .ok (ofText s)
  else .ok (.text s)

/-- The meaning of a scalar; `ignoreTag` tells that its tag has been dealt with. -/
def ofScalar (ignoreTag : Bool) (p : Properties) (style : ScalarStyle) (s : String) :
    Except Problem Plain :=
  match if ignoreTag then none else p.tag with
  | some tag => tagged tag style s
  | none => .ok (if style = .plain then ofText s else .text s)

end Plain

end Preseed.Yaml

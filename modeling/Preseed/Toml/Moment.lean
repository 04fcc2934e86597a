import Preseed.Text.Split
import Preseed.Text.Ascii

/-!
# Dates and times of TOML

A date, a time of the day, or both, and with both the distance from universal time. They are kept as text
in one form: a capital `T` between date and time, at most nine digits behind the seconds and no needless
zeros there.
-/

namespace Preseed.Toml.Moment

/-- A number of so many digits. -/
def number? (width : Nat) (cs : List Char) : Option Nat :=
  if cs.length = width && cs.all Ascii.isDigit then Ascii.number? 10 cs else none

def isLeapYear (year : Nat) : Bool :=
  year % 4 = 0 && (year % 100 ≠ 0 || year % 400 = 0)

def daysOf (year month : Nat) : Nat :=
  if month = 2 then (if isLeapYear year then 29 else 28)
  else if month ∈ [4, 6, 9, 11] then 30
  else 31

/-- Whether a text is a day of the calendar. -/
def isDate (cs : List Char) : Bool :=
  match Split.pieces '-' cs with
  | [year, month, day] =>
    match number? 4 year, number? 2 month, number? 2 day with
    | some y, some m, some d => 1 ≤ m && m ≤ 12 && 1 ≤ d && d ≤ daysOf y m
    | _, _, _ => false
  | _ => false

/-- Hours and minutes. -/
def isClock (cs : List Char) : Bool :=
  match Split.pieces ':' cs with
  | [hour, minute] =>
    match number? 2 hour, number? 2 minute with
    | some h, some m => h < 24 && m < 60
    | _, _ => false
  | _ => false

/-- The part of a second with its point, without needless zeros. -/
def fraction (digits : List Char) : List Char :=
  match ((digits.take 9).reverse.dropWhile (· = '0')).reverse with
  | [] => []
  | kept => '.' :: kept

/-- A time of the day in its one form. -/
def time? (cs : List Char) : Option (List Char) :=
  let whole := cs.take 8
  let isWhole := isClock (whole.take 5) && whole[5]? = some ':' &&
    (number? 2 (whole.drop 6)).any (· ≤ 60)
  if !isWhole then none
  else
    match cs.drop 8 with
    | [] => some whole
    | '.' :: digits =>
      if !digits.isEmpty && digits.all Ascii.isDigit then some (whole ++ fraction digits) else none
    | _ => none

/-- A distance from universal time in its one form. -/
def offset? : List Char → Option (List Char)
  | [] => some []
  | ['Z'] => some ['Z']
  | ['z'] => some ['Z']
  | sign :: clock =>
    if (sign = '+' || sign = '-') && isClock clock then
      some ((if clock = "00:00".toList then '+' else sign) :: clock)
    else none

def isOffsetStart (c : Char) : Bool :=
  c = 'Z' || c = 'z' || c = '+' || c = '-'

/-- A time of the day with its distance from universal time. -/
def timeWithOffset? (cs : List Char) : Option (List Char) := do
  let time ← time? (cs.takeWhile (!isOffsetStart ·))
  let offset ← offset? (cs.dropWhile (!isOffsetStart ·))
  some (time ++ offset)

/-- A date, a time, or both in one word. -/
def ofWord? (cs : List Char) : Option (List Char) :=
  if isDate cs then some cs
  else
    match time? cs with
    | some time => some time
    | none =>
      match cs.drop 10 with
      | t :: time =>
        if isDate (cs.take 10) && (t = 'T' || t = 't') then
          (timeWithOffset? time).map fun time => cs.take 10 ++ 'T' :: time
        else none
      | [] => none

end Preseed.Toml.Moment

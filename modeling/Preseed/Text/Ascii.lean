/-!
# ASCII letters and digits

Case folding and hexadecimal digits. Characters outside ASCII are left alone: names of kinds,
attributes, settings and hosts compare by these rules.
-/

namespace Preseed.Ascii

/-- The text with every ASCII capital replaced by its small letter. -/
def lower (s : String) : String :=
  String.ofList (s.toList.map Char.toLower)

/-- Two texts are equal up to the case of ASCII letters. -/
def eqIgnoreCase (a b : String) : Bool :=
  lower a == lower b

def isDigit (c : Char) : Bool :=
  '0' ≤ c && c ≤ '9'

def isLetter (c : Char) : Bool :=
  ('a' ≤ c && c ≤ 'z') || ('A' ≤ c && c ≤ 'Z')

def isAlphanumeric (c : Char) : Bool :=
  isDigit c || isLetter c

/-- The value of a decimal or hexadecimal digit. -/
def hexValue? (c : Char) : Option Nat :=
  if isDigit c then some (c.toNat - '0'.toNat)
  else if 'a' ≤ c && c ≤ 'f' then some (c.toNat - 'a'.toNat + 10)
  else if 'A' ≤ c && c ≤ 'F' then some (c.toNat - 'A'.toNat + 10)
  else none

def isHexDigit (c : Char) : Bool :=
  (hexValue? c).isSome

/-- The small-letter digit of a value below sixteen. -/
def hexDigit (n : Nat) : Char :=
  if n < 10 then Char.ofNat ('0'.toNat + n) else Char.ofNat ('a'.toNat + (n - 10))

/-- The capital-letter digit of a value below sixteen. -/
def upperHexDigit (n : Nat) : Char :=
  (hexDigit n).toUpper

/-- The digits of a number in small hexadecimal letters, without leading zeros. -/
def hexText (n : Nat) : List Char :=
  (Nat.toDigits 16 n)

/-- The number written by digits of the given base; none when a character is no such digit.
The empty text is zero. -/
def number? (base : Nat) (cs : List Char) : Option Nat :=
  cs.foldl (fun acc c =>
    match acc, hexValue? c with
    | some n, some d => if d < base then some (n * base + d) else none
    | _, _ => none) (some 0)

end Preseed.Ascii

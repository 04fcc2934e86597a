import Preseed.Text.Ascii

/-!
# Search filters

Conditions on the entries of a directory, and their text. Every assertion value is escaped there, so a
value cannot change what the filter says.
-/

namespace Preseed

inductive Filter where
  /-- Some value of the attribute equals the given one. -/
  | equals (name value : String)
  /-- The attribute has a value. -/
  | present (name : String)
  | all (filters : List Filter)
  | any (filters : List Filter)
  deriving Repr, Inhabited

namespace Filter

/-- Characters that have a meaning in a filter's text. -/
def isSpecial (c : Char) : Bool :=
  c == '\\' || c == '*' || c == '(' || c == ')' || c == '\x00'

/-- A special character is written as a backslash and two hexadecimal digits. -/
def escapeChar (c : Char) : List Char :=
  if isSpecial c then ['\\', Ascii.hexDigit (c.toNat / 16), Ascii.hexDigit (c.toNat % 16)] else [c]

def escape (cs : List Char) : List Char :=
  cs.flatMap escapeChar

mutual

def toChars : Filter → List Char
  | equals name value => '(' :: (name.toList ++ '=' :: (escape value.toList ++ [')']))
  | present name => '(' :: (name.toList ++ ['=', '*', ')'])
  | all filters => '(' :: '&' :: (listChars filters ++ [')'])
  | any filters => '(' :: '|' :: (listChars filters ++ [')'])

def listChars : List Filter → List Char
  | [] => []
  | f :: fs => f.toChars ++ listChars fs

end

/-- The filter as text. -/
def text (f : Filter) : String :=
  String.ofList f.toChars

end Filter

end Preseed

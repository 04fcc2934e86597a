import Preseed.Text.Ascii

/-!
# Positions in a YAML text

Character classes of YAML and a cursor that knows its line and column. A line breaks at a carriage
return, a line feed, both together, a next-line character, or a line or paragraph separator.
-/

namespace Preseed.Yaml

def isBreak (c : Char) : Bool :=
  c == '\r' || c == '\n' || c == '\u0085' || c == '\u2028' || c == '\u2029'

/-- A space or a tab. -/
def isSpace (c : Char) : Bool :=
  c == ' ' || c == '\t'

def isSpaceOrBreak (c : Char) : Bool :=
  isSpace c || isBreak c

/-- A character of an anchor or of a directive's name. -/
def isWordChar (c : Char) : Bool :=
  Ascii.isAlphanumeric c || c == '_' || c == '-'

/-- A character that may stand in a text at all. -/
def isAllowed (c : Char) : Bool :=
  let n := c.toNat
  n == 0x9 || n == 0xA || n == 0xD || (0x20 ≤ n && n ≤ 0x7E) || n == 0x85 ||
    (0xA0 ≤ n && n ≤ 0xD7FF) || (0xE000 ≤ n && n ≤ 0xFFFD) || 0x10000 ≤ n

/-- The end of the text, a space or a break comes next. -/
def endsWord : List Char → Bool
  | [] => true
  | c :: _ => isSpaceOrBreak c

/-- The end of the text or of the line comes next. -/
def endsLine : List Char → Bool
  | [] => true
  | c :: _ => isBreak c

/-- A place in a text: what is left, and where that starts. -/
structure Cursor where
  rest : List Char
  index : Nat := 0
  line : Nat := 0
  column : Nat := 0

namespace Cursor

/-- Past one character of a line. -/
def skip (c : Cursor) : Cursor :=
  { c with rest := c.rest.tail, index := c.index + 1, column := c.column + 1 }

/-- Past a number of characters of a line. -/
def skipMany (n : Nat) (c : Cursor) : Cursor :=
  { c with rest := c.rest.drop n, index := c.index + n, column := c.column + n }

def skipWhile (p : Char → Bool) (c : Cursor) : Cursor :=
  c.skipMany (c.rest.takeWhile p).length

def skipSpaces (c : Cursor) : Cursor :=
  c.skipWhile isSpace

/-- Past a line break, if there is one. -/
def skipBreak (c : Cursor) : Cursor :=
  match c.rest with
  | [] => c
  | a :: rest =>
    if a == '\r' && rest.head? == some '\n' then
      { rest := rest.tail, index := c.index + 2, line := c.line + 1 }
    else if isBreak a then { rest, index := c.index + 1, line := c.line + 1 }
    else c

/-- What the line break that comes next counts as: the two separators for themselves, any other for a
line feed. -/
def breakText (c : Cursor) : List Char :=
  match c.rest with
  | [] => []
  | a :: _ =>
    if a == '\u2028' || a == '\u2029' then [a]
    else if isBreak a then ['\n']
    else []

/-- Past a comment, up to the end of its line. -/
def skipComment (c : Cursor) : Cursor :=
  if c.rest.head? == some '#' then c.skipWhile (!isBreak ·) else c

/-- Three dashes or three dots at the start of a line, which separate documents. -/
def isDocumentMark (mark : Char) (c : Cursor) : Bool :=
  c.column == 0 && c.rest.take 3 == [mark, mark, mark] && endsWord (c.rest.drop 3)

def isDocumentEdge (c : Cursor) : Bool :=
  c.isDocumentMark '-' || c.isDocumentMark '.'

/-- Past spaces, a comment and the break at the end of a line; none if anything else follows. -/
def finishLine? (c : Cursor) : Option Cursor :=
  let c := c.skipSpaces.skipComment
  if endsLine c.rest then some c.skipBreak else none

end Cursor

end Preseed.Yaml

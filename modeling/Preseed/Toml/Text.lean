import Preseed.Text.Ascii

/-!
# Texts of TOML

A text stands between quotes, one on each side or three. Between double quotes a backslash escapes, and
between three quotes lines may break.
-/

namespace Preseed.Toml

def isSpace (c : Char) : Bool :=
  c = ' ' || c = '\t'

def skipSpaces (cs : List Char) : List Char :=
  cs.dropWhile isSpace

/-- Past a line feed, or a carriage return and a line feed. -/
def lineBreak? : List Char → Option (List Char)
  | '\n' :: rest => some rest
  | '\r' :: '\n' :: rest => some rest
  | _ => none

/-- A character that may stand in a text or a comment as it is. -/
def isPlain (c : Char) : Bool :=
  c = '\t' || (' ' ≤ c && c ≠ '\x7f')

/-- Past spaces and line breaks. -/
def skipLines (cs : List Char) : List Char :=
  cs.dropWhile fun c => isSpace c || c = '\n' || c = '\r'

namespace Quoted

/-- The character with a code point in hexadecimal digits. -/
def codePoint? (digits : List Char) : Option Char :=
  (Ascii.number? 16 digits).bind fun n => if n.isValidChar then some (Char.ofNat n) else none

/-- The character that an escape behind its backslash stands for, and what follows. -/
def escape? : List Char → Option (Char × List Char)
  | 'b' :: rest => some ('\x08', rest)
  | 't' :: rest => some ('\t', rest)
  | 'n' :: rest => some ('\n', rest)
  | 'f' :: rest => some ('\x0c', rest)
  | 'r' :: rest => some ('\r', rest)
  | '"' :: rest => some ('"', rest)
  | '\\' :: rest => some ('\\', rest)
  | 'u' :: a :: b :: c :: d :: rest => (codePoint? [a, b, c, d]).map fun x => (x, rest)
  | 'U' :: a :: b :: c :: d :: e :: f :: g :: h :: rest =>
    (codePoint? [a, b, c, d, e, f, g, h]).map fun x => (x, rest)
  | _ => none

/-- Past a line break that a backslash takes away, with the white space after it. -/
def joint? (cs : List Char) : Option (List Char) :=
  (lineBreak? (skipSpaces cs)).map skipLines

/-- Behind three closing quotes: up to two more of them belong to the text. -/
def close (quote : Char) : List Char → List Char × List Char
  | a :: b :: rest =>
    if a = quote && b = quote then ([a, b], rest)
    else if a = quote then ([a], b :: rest)
    else ([], a :: b :: rest)
  | [a] => if a = quote then ([a], []) else ([], [a])
  | [] => ([], [])

/-- Adds a character to what is read after it. -/
def cons (c : Char) (read : Option (List Char × List Char)) : Option (List Char × List Char) :=
  read.map fun (cs, rest) => (c :: cs, rest)

/-- Reads a text on one line up to its closing quote. -/
def line? (quote : Char) : Nat → List Char → Option (List Char × List Char)
  | 0, _ => none
  | _ + 1, [] => none
  | fuel + 1, c :: rest =>
    if c = quote then some ([], rest)
    else if c = '\\' && quote = '"' then
      (escape? rest).bind fun (x, rest) => cons x (line? quote fuel rest)
    else if isPlain c then cons c (line? quote fuel rest)
    else none

/-- Reads a text of several lines up to its three closing quotes. -/
def lines? (quote : Char) : Nat → List Char → Option (List Char × List Char)
  | 0, _ => none
  | _ + 1, [] => none
  | fuel + 1, c :: rest =>
    if c = quote && rest.take 2 = [quote, quote] then some (close quote (rest.drop 2))
    else if c = '\\' && quote = '"' then
      match joint? rest with
      | some rest => lines? quote fuel rest
      | none => (escape? rest).bind fun (x, rest) => cons x (lines? quote fuel rest)
    else
      match lineBreak? (c :: rest) with
      | some rest => cons '\n' (lines? quote fuel rest)
      | none => if isPlain c then cons c (lines? quote fuel rest) else none

/-- Reads the text behind an opening quote, the first of three perhaps. A line break directly behind
three quotes does not count. -/
def read? (quote : Char) (rest : List Char) : Option (List Char × List Char) :=
  if rest.take 2 = [quote, quote] then
    let inner := rest.drop 2
    lines? quote (inner.length + 1) ((lineBreak? inner).getD inner)
  else line? quote (rest.length + 1) rest

end Quoted

/-! ## Keys -/

def isBare (c : Char) : Bool :=
  Ascii.isAlphanumeric c || c = '_' || c = '-'

/-- One name of a key, with or without quotes. -/
def name? (cs : List Char) : Option (String × List Char) :=
  let quoted (quote : Char) (rest : List Char) :=
    (Quoted.line? quote (rest.length + 1) rest).map fun (name, rest) => (String.ofList name, rest)
  match cs with
  | '"' :: rest => quoted '"' rest
  | '\'' :: rest => quoted '\'' rest
  | cs =>
    let name := cs.takeWhile isBare
    if name.isEmpty then none else some (String.ofList name, cs.dropWhile isBare)

/-- The names of a key, with points between them. -/
def key? : Nat → List Char → Option (List String × List Char)
  | 0, _ => none
  | fuel + 1, cs => do
    let (name, rest) ← name? (skipSpaces cs)
    match skipSpaces rest with
    | '.' :: rest =>
      let (names, rest) ← key? fuel rest
      some (name :: names, rest)
    | rest => some ([name], rest)

end Preseed.Toml

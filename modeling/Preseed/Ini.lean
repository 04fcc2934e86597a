import Preseed.Text.Ascii
import Preseed.Text.Blank

/-!
# INI

Pairs of a key and a text under headings in brackets. A value ends with its line, but for what stands in
quotes; a backslash escapes. A comment is a line of its own.
-/

namespace Preseed

/-- The pairs under a heading, or those before the first one. -/
structure IniSection where
  heading : Option String
  pairs : List (String × String) := []
  deriving DecidableEq, Repr, Inhabited

namespace Ini

/-- What a character behind a backslash stands for. -/
def escaped (c : Char) : Char :=
  match c with
  | '0' => '\x00'
  | 'a' => '\x07'
  | 'b' => '\x08'
  | 't' => '\t'
  | 'r' => '\r'
  | 'n' => '\n'
  | c => c

/-- The character that four hexadecimal digits stand for. -/
def codePoint? (digits : List Char) : Option Char :=
  if digits.length = 4 then
    (Ascii.number? 16 digits).bind fun n => if n.isValidChar then some (Char.ofNat n) else none
  else none

/-- Reads up to a character at which to stop, or to the end of the text if that may be. -/
def until? (stop : Char → Bool) (mayEnd : Bool) : Nat → List Char → Option (List Char × List Char)
  | 0, _ => none
  | _ + 1, [] => if mayEnd then some ([], []) else none
  | fuel + 1, c :: rest =>
    let go (read rest : List Char) : Option (List Char × List Char) :=
      (until? stop mayEnd fuel rest).map fun (cs, rest) => (read ++ cs, rest)
    if stop c then some ([], c :: rest)
    else if c = '\\' then
      match rest with
      | [] => go ['\\'] []
      | '\n' :: rest => go [] rest
      | 'x' :: rest => (codePoint? (rest.take 4)).bind fun x => go [x] (rest.drop 4)
      | d :: rest => go [escaped d] rest
    else go [c] rest

def isLineEnd (c : Char) : Bool :=
  c = '\n' || c = '\r'

def trimmed (cs : List Char) : String :=
  String.ofList (Blank.trim cs)

/-- Reads a value: quoted parts as they are, and then the rest of the line. -/
def value? (first : Bool) : Nat → List Char → Option (List Char × List Char)
  | 0, _ => none
  | fuel + 1, cs =>
    match cs with
    | [] => some ([], [])
    | c :: rest =>
      if c = '"' || c = '\'' then do
        let (quoted, rest) ← until? (· = c) false (rest.length + 1) rest
        let (more, rest) ← value? false fuel (rest.drop 1)
        some (quoted ++ more, rest)
      else do
        let (line, rest) ← until? isLineEnd true (cs.length + 1) cs
        some (if first then Blank.trim line else Blank.trimEnd line, rest)

/-- Adds a pair to the last section; the sections are given with the last one first. -/
def addPair (key value : String) : List IniSection → List IniSection
  | [] => [{ heading := none, pairs := [(key, value)] }]
  | s :: before => { s with pairs := s.pairs ++ [(key, value)] } :: before

/-- Reads sections; `lineStart` tells that nothing precedes on the line, and `key` is one that still has
no value. -/
def sections? : Nat → (lineStart : Bool) → (key : String) → List IniSection → List Char →
    Option (List IniSection)
  | 0, _, _, _, _ => none
  | fuel + 1, lineStart, key, found, cs =>
    match cs with
    | [] => some found.reverse
    | c :: rest =>
      if Blank.isBlank c then sections? fuel (c = '\n') key found rest
      else if c = ';' || c = '#' then
        if lineStart then sections? fuel true key found (rest.dropWhile (· ≠ '\n')) else none
      else if c = '[' then do
        let (heading, rest) ← until? (· = ']') false (rest.length + 1) rest
        sections? fuel false key ({ heading := some (trimmed heading) } :: found) (rest.drop 1)
      else if c = '=' || c = ':' then
        if key.isEmpty then none
        else do
          let rest := rest.dropWhile fun c => Blank.isBlank c && !isLineEnd c
          let (value, rest) ← value? true (rest.length + 1) rest
          sections? fuel false "" (addPair key (String.ofList value) found) rest
      else do
        let (key, rest) ← until? (fun c => c = '=' || c = ':') false (cs.length + 1) cs
        sections? fuel false (trimmed key) found rest

/-- The sections that a text holds, in their order. -/
def ofText? (source : String) : Option (List IniSection) :=
  sections? (2 * source.toList.length + 1) true "" [] source.toList

end Ini

end Preseed

import Preseed.Yaml.Scalar
import Preseed.Text.Utf8

/-!
# Tokens of a YAML text

The text is cut into indicators, properties and scalars, and the indentation of blocks becomes tokens of
its own. Where a key without a `?` begins shows only at its colon, so the token before a possible key is
remembered and the key's tokens are put in front of it later. Such a key stays on one line and within
1024 characters.
-/

namespace Preseed.Yaml

inductive Token where
  | version (major minor : Nat)
  | handle (name leading : String)
  | documentStart
  | documentEnd
  | blockSequence
  | blockMapping
  | blockEnd
  | flowSequence
  | flowSequenceEnd
  | flowMapping
  | flowMappingEnd
  | blockEntry
  | flowEntry
  | key
  | value
  | alias (name : String)
  | anchor (name : String)
  | tag (handle suffix : String)
  | scalar (text : String) (style : ScalarStyle)
  deriving DecidableEq, Repr

/-- A place where a key may have begun: how many tokens came before, and where it is in the text. -/
structure PossibleKey where
  position : Nat
  /-- A block's entry that has to turn out a key. -/
  required : Bool
  index : Nat
  line : Nat
  column : Nat

/-- The state of cutting a text into tokens. -/
structure Scanner where
  here : Cursor
  /-- The tokens found, the last first. -/
  found : List Token := []
  /-- The columns of the open blocks, the innermost first. -/
  indents : List Nat := []
  /-- The possible key of every open flow collection, the innermost first, and of the blocks around. -/
  keys : List (Option PossibleKey) := [none]
  keyAllowed : Bool := true

namespace Scanner

def inFlow (s : Scanner) : Bool :=
  s.keys.length > 1

def indent? (s : Scanner) : Option Nat :=
  s.indents.head?

/-- The column at which a further block begins at the least. -/
def nextIndent (s : Scanner) : Nat :=
  (s.indent?.map (· + 1)).getD 0

def emit (s : Scanner) (t : Token) : Scanner :=
  { s with found := t :: s.found }

/-- Puts a token in front of the one at a position. -/
def insertAt (s : Scanner) (position : Nat) (t : Token) : Scanner :=
  let later := s.found.length - position
  { s with found := s.found.take later ++ t :: s.found.drop later }

def allowKey (s : Scanner) (allowed : Bool) : Scanner :=
  { s with keyAllowed := allowed }

/-- Opens a block at a column, unless one is open there; its token goes before the given position. -/
def openBlock (s : Scanner) (column position : Nat) (t : Token) : Scanner :=
  if s.inFlow || column < s.nextIndent then s
  else { s.insertAt position t with indents := column :: s.indents }

/-- Closes the blocks that are open to the right of a column; none closes all. -/
def closeBlocks (s : Scanner) (column : Option Nat) : Scanner :=
  if s.inFlow then s
  else
    let closed := s.indents.takeWhile fun i => column.all (· < i)
    { s with
      found := closed.map (fun _ => Token.blockEnd) ++ s.found
      indents := s.indents.drop closed.length }

/-- Gives up the possible key of the innermost collection; a required one is a fault. -/
def dropKey? (s : Scanner) : Option Scanner :=
  match s.keys with
  | some k :: rest => if k.required then none else some { s with keys := none :: rest }
  | _ => some s

/-- Remembers that a key may begin here. -/
def saveKey? (s : Scanner) : Option Scanner :=
  if !s.keyAllowed then some s
  else do
    let s ← s.dropKey?
    let k : PossibleKey :=
      { position := s.found.length
        required := !s.inFlow && s.indent? == some s.here.column
        index := s.here.index, line := s.here.line, column := s.here.column }
    some { s with keys := some k :: s.keys.tail }

def isStale (here : Cursor) (k : PossibleKey) : Bool :=
  k.line < here.line || k.index + 1024 < here.index

/-- Gives up the possible keys that the cursor has left behind. -/
def dropStale? (s : Scanner) : Option Scanner := do
  let keys ← s.keys.mapM fun k? =>
    match k? with
    | some k => if isStale s.here k then (if k.required then none else some none) else some (some k)
    | none => some none
  some { s with keys }

/-- Past white space, comments and line breaks. -/
def skipBlank : Nat → Scanner → Scanner
  | 0, s => s
  | fuel + 1, s =>
    let c := if s.here.index == 0 && s.here.rest.head? == some '\uFEFF' then s.here.skip else s.here
    let tabs := s.inFlow || !s.keyAllowed
    let c := (c.skipWhile fun a => a == ' ' || (tabs && a == '\t')).skipComment
    if c.rest.head?.any isBreak then
      skipBlank fuel { s with here := c.skipBreak, keyAllowed := s.keyAllowed || !s.inFlow }
    else { s with here := c }

/-! ## Directives, tags and names -/

/-- One to nine digits. -/
def versionNumber? (c : Cursor) : Option (Nat × Cursor) := do
  let digits := c.rest.takeWhile Ascii.isDigit
  if digits.isEmpty || digits.length > 9 then none
  else
    let n ← Ascii.number? 10 digits
    some (n, c.skipMany digits.length)

/-- A tag's handle: `!`, or a word between two of them. The flag asks for a proper handle. -/
def tagHandle? (directive : Bool) (c : Cursor) : Option (List Char × Cursor) :=
  if c.rest.head? != some '!' then none
  else
    let word := c.rest.tail.takeWhile isWordChar
    let after := c.skipMany (1 + word.length)
    if after.rest.head? == some '!' then some ('!' :: word ++ ['!'], after.skip)
    else if directive && !word.isEmpty then none
    else some ('!' :: word, after)

def isUriChar (verbatim : Bool) (c : Char) : Bool :=
  isWordChar c || c ∈ [';', '/', '?', ':', '@', '&', '=', '+', '$', '.', '!', '~', '*', '\'', '(', ')']
    || (verbatim && c ∈ [',', '[', ']'])

/-- One byte written as `%` and two digits. -/
def uriByte? (cs : List Char) : Option (UInt8 × List Char) :=
  match cs with
  | '%' :: a :: b :: rest => do
    let h ← Ascii.hexValue? a
    let l ← Ascii.hexValue? b
    some (UInt8.ofNat (16 * h + l), rest)
  | _ => none

/-- The number of bytes of a character by its first one. -/
def uriWidth? (b : UInt8) : Option Nat :=
  if b < 0x80 then some 1
  else if b < 0xC0 then none
  else if b < 0xE0 then some 2
  else if b < 0xF0 then some 3
  else if b < 0xF8 then some 4
  else none

/-- The bytes that follow the first one of an escaped character. -/
def uriTail? : Nat → List Char → Option (Bytes × List Char)
  | 0, cs => some ([], cs)
  | n + 1, cs => do
    let (b, cs) ← uriByte? cs
    if b < 0x80 || 0xC0 ≤ b then none
    else
      let (bs, cs) ← uriTail? n cs
      some (b :: bs, cs)

/-- The characters of a tag, with escapes as their bytes. -/
def uri? (verbatim : Bool) : Nat → List Char → Bytes → Option (Bytes × List Char)
  | 0, cs, bytes => some (bytes, cs)
  | fuel + 1, cs, bytes =>
    match cs with
    | [] => some (bytes, [])
    | c :: rest =>
      if c == '%' then do
        let (b, cs) ← uriByte? (c :: rest)
        let width ← uriWidth? b
        let (bs, cs) ← uriTail? (width - 1) cs
        uri? verbatim fuel cs (bytes ++ b :: bs)
      else if isUriChar verbatim c then uri? verbatim fuel rest (bytes ++ Utf8.encodeChar c)
      else some (bytes, c :: rest)

/-- Reads a tag's text after what its handle left over. -/
def tagText? (verbatim : Bool) (left : List Char) (c : Cursor) : Option (List Char × Cursor) := do
  let (bytes, rest) ← uri? verbatim c.rest.length c.rest []
  if bytes.isEmpty && left.isEmpty then none
  else
    some (left.drop 1 ++ Utf8.decodeLossy bytes, c.skipMany (c.rest.length - rest.length))

/-- A tag: its handle, empty for a verbatim one, and the rest. -/
def tag? (flow : Bool) (c : Cursor) : Option (String × String × Cursor) := do
  let (handle, suffix, c) ←
    if c.rest.tail.head? == some '<' then do
      let (text, c) ← tagText? true [] (c.skipMany 2)
      if c.rest.head? == some '>' then some ([], text, c.skip) else none
    else do
      let (handle, c) ← tagHandle? false c
      if handle.length > 1 && handle.getLast? == some '!' then do
        let (text, c) ← tagText? false [] c
        some (handle, text, c)
      else do
        let (text, c) ← tagText? false handle c
        if text.isEmpty then some ([], ['!'], c) else some (['!'], text, c)
  if (flow && c.rest.head? == some ',') || endsWord c.rest then
    some (String.ofList handle, String.ofList suffix, c)
  else none

/-- The name of an anchor or an alias behind its indicator. -/
def name? (c : Cursor) : Option (String × Cursor) :=
  let word := c.rest.takeWhile isWordChar
  let c := c.skipMany word.length
  if word.isEmpty then none
  else if endsWord c.rest || c.rest.head?.any (· ∈ ['?', ':', ',', ']', '\x7d', '%', '@', '\x60']) then
    some (String.ofList word, c)
  else none

/-- A directive behind its percent sign. -/
def directive? (c : Cursor) : Option (Token × Cursor) := do
  let word := c.rest.takeWhile isWordChar
  let c := c.skipMany word.length
  if word.isEmpty || !endsWord c.rest then none
  else if word = "YAML".toList then
    let (major, c) ← versionNumber? c.skipSpaces
    if c.rest.head? != some '.' then none
    else
      let (minor, c) ← versionNumber? c.skip
      some (.version major minor, ← c.finishLine?)
  else if word = "TAG".toList then
    let (handle, c) ← tagHandle? true c.skipSpaces
    if !c.rest.head?.any isSpace then none
    else
      let (text, c) ← tagText? true [] c.skipSpaces
      if !endsWord c.rest then none
      else some (.handle (String.ofList handle) (String.ofList text), ← c.finishLine?)
  else none

/-! ## Steps -/

def moveTo (s : Scanner) (c : Cursor) : Scanner :=
  { s with here := c }

/-- Opens a block for an indicator that stands where a key may begin. -/
def openHere? (s : Scanner) (t : Token) : Option Scanner :=
  if s.inFlow then some s
  else if s.keyAllowed then some (s.openBlock s.here.column s.found.length t)
  else none

def documentMark? (s : Scanner) (t : Token) : Option Scanner := do
  let s ← (s.closeBlocks none).dropKey?
  some (((s.allowKey false).emit t).moveTo (s.here.skipMany 3))

def openFlow? (s : Scanner) (t : Token) : Option Scanner := do
  let s ← s.saveKey?
  some ({ (s.allowKey true).emit t with keys := none :: s.keys }.moveTo s.here.skip)

def closeFlow? (s : Scanner) (t : Token) : Option Scanner := do
  let s ← s.dropKey?
  let keys := if s.inFlow then s.keys.tail else s.keys
  some ({ (s.allowKey false).emit t with keys }.moveTo s.here.skip)

def flowEntry? (s : Scanner) : Option Scanner := do
  let s ← s.dropKey?
  some (((s.allowKey true).emit .flowEntry).moveTo s.here.skip)

def blockEntry? (s : Scanner) : Option Scanner := do
  let s ← (← s.openHere? .blockSequence).dropKey?
  some (((s.allowKey true).emit .blockEntry).moveTo s.here.skip)

def keyMark? (s : Scanner) : Option Scanner := do
  let s ← (← s.openHere? .blockMapping).dropKey?
  some (((s.allowKey !s.inFlow).emit .key).moveTo s.here.skip)

/-- A colon: it makes the possible key a key, or ends a key that a `?` began. -/
def valueMark? (s : Scanner) : Option Scanner :=
  match s.keys with
  | some k :: rest =>
    let s := { s.insertAt k.position .key with keys := none :: rest }
    let s := s.openBlock k.column k.position .blockMapping
    some (((s.allowKey false).emit .value).moveTo s.here.skip)
  | _ => do
    let s ← s.openHere? .blockMapping
    some (((s.allowKey !s.inFlow).emit .value).moveTo s.here.skip)

def property? (s : Scanner) (read : Option (Token × Cursor)) : Option Scanner := do
  let s ← s.saveKey?
  let (t, c) ← read
  some (((s.allowKey false).emit t).moveTo c)

def blockScalar? (s : Scanner) (literal : Bool) : Option Scanner := do
  let s ← s.dropKey?
  let (text, c) ← Scalar.block? literal s.indent? s.here.skip
  let style := if literal then ScalarStyle.literal else .folded
  some (((s.allowKey true).emit (.scalar (String.ofList text) style)).moveTo c)

def quotedScalar? (s : Scanner) (single : Bool) : Option Scanner :=
  let c := s.here.skip
  s.property? do
    let (text, c) ← Scalar.quoted? single (c.rest.length + 1) c []
    some (.scalar (String.ofList text) (if single then .singleQuoted else .doubleQuoted), c)

def plainScalar? (s : Scanner) : Option Scanner := do
  let s ← s.saveKey?
  let (text, c, broken) ← Scalar.plain? s.inFlow s.nextIndent (s.here.rest.length + 1) s.here [] {}
  some (((s.allowKey broken).emit (.scalar (String.ofList text) .plain)).moveTo c)

/-- Characters that begin no plain scalar. -/
def isIndicator (c : Char) : Bool :=
  c ∈ ['-', '?', ':', ',', '[', ']', '\x7b', '\x7d', '#', '&', '*', '!', '|', '>', '\'', '"', '%', '@',
    '\x60']

/-- The next token or tokens; the text goes on with the given character. -/
def token? (s : Scanner) (a : Char) : Option Scanner :=
  let c := s.here
  let next := c.rest.tail
  if c.column == 0 && a == '%' then do
    let s ← (s.closeBlocks none).dropKey?
    let (t, c) ← directive? c.skip
    some (((s.allowKey false).emit t).moveTo c)
  else if c.isDocumentMark '-' then s.documentMark? .documentStart
  else if c.isDocumentMark '.' then s.documentMark? .documentEnd
  else if a == '[' then s.openFlow? .flowSequence
  else if a == '\x7b' then s.openFlow? .flowMapping
  else if a == ']' then s.closeFlow? .flowSequenceEnd
  else if a == '\x7d' then s.closeFlow? .flowMappingEnd
  else if a == ',' then s.flowEntry?
  else if a == '-' && endsWord next then s.blockEntry?
  else if a == '?' && (s.inFlow || endsWord next) then s.keyMark?
  else if a == ':' && (s.inFlow || endsWord next) then s.valueMark?
  else if a == '*' then s.property? ((name? c.skip).map fun (n, c) => (.alias n, c))
  else if a == '&' then s.property? ((name? c.skip).map fun (n, c) => (.anchor n, c))
  else if a == '!' then s.property? ((tag? s.inFlow c).map fun (h, t, c) => (.tag h t, c))
  else if a == '|' && !s.inFlow then s.blockScalar? true
  else if a == '>' && !s.inFlow then s.blockScalar? false
  else if a == '\'' then s.quotedScalar? true
  else if a == '"' then s.quotedScalar? false
  else if !(isSpaceOrBreak a || isIndicator a) || (a == '-' && !next.head?.any isSpace) ||
      (!s.inFlow && (a == '?' || a == ':') && !endsWord next) then s.plainScalar?
  else none

/-- All tokens of the text that is left. -/
def run? : Nat → Scanner → Option (List Token)
  | 0, _ => none
  | fuel + 1, s => do
    let s ← (skipBlank (s.here.rest.length + 1) s).dropStale?
    let s := s.closeBlocks (some s.here.column)
    match s.here.rest.head? with
    | none =>
      let s ← (s.closeBlocks none).dropKey?
      some s.found.reverse
    | some a => run? fuel (← s.token? a)

end Scanner

/-- The tokens of a text; none when it is malformed. A byte order mark in front is no part of it. -/
def Token.ofText? (text : List Char) : Option (List Token) :=
  let text := if text.head? == some '\uFEFF' then text.tail else text
  if text.all isAllowed then Scanner.run? (text.length + 2) { here := { rest := text } } else none

end Preseed.Yaml

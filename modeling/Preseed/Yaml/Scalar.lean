import Preseed.Yaml.Cursor

/-!
# Scalars of a YAML text

The text of a plain, quoted or block scalar, with its lines folded as its style asks.
-/

namespace Preseed.Yaml

inductive ScalarStyle where
  | plain
  | singleQuoted
  | doubleQuoted
  | literal
  | folded
  deriving DecidableEq, Repr

namespace Scalar

/-- White space inside a scalar: the spaces of one line, or, once a line broke, its first break and the
breaks after it. -/
structure Gap where
  spaces : List Char := []
  broken : Bool := false
  first : List Char := []
  more : List Char := []

namespace Gap

/-- What the white space counts as: one line feed is a space, and of several the first is dropped. -/
def text (g : Gap) : List Char :=
  if g.broken then
    if g.first = ['\n'] then (if g.more.isEmpty then [' '] else g.more) else g.first ++ g.more
  else g.spaces

/-- Reads white space. A tab before the column `indent` on a later line is refused. -/
def read? (indent : Nat) : Nat → Cursor → Gap → Option (Gap × Cursor)
  | 0, c, g => some (g, c)
  | fuel + 1, c, g =>
    match c.rest with
    | [] => some (g, c)
    | a :: _ =>
      if isSpace a then
        if g.broken then
          if c.column < indent && a == '\t' then none else read? indent fuel c.skip g
        else read? indent fuel c.skip { g with spaces := g.spaces ++ [a] }
      else if isBreak a then
        if g.broken then read? indent fuel c.skipBreak { g with more := g.more ++ c.breakText }
        else read? indent fuel c.skipBreak { broken := true, first := c.breakText }
      else some (g, c)

end Gap

/-! ## Plain scalars -/

def isFlowIndicator (c : Char) : Bool :=
  c == ',' || c == '[' || c == ']' || c == '\x7b' || c == '\x7d'

/-- The characters of a plain scalar up to white space or an indicator. Inside a flow collection a colon
directly before an indicator is refused. -/
def plainWord? (flow : Bool) : List Char → Option (List Char)
  | [] => some []
  | c :: rest =>
    if isSpaceOrBreak c then some []
    else if flow && c == ':' && rest.head?.any (fun d => isFlowIndicator d || d == '?') then none
    else if c == ':' && endsWord rest then some []
    else if flow && isFlowIndicator c then some []
    else (plainWord? flow rest).map (c :: ·)

/-- Reads a plain scalar: its text, the cursor after it, and whether a line broke behind it. -/
def plain? (flow : Bool) (indent : Nat) :
    Nat → Cursor → List Char → Gap → Option (List Char × Cursor × Bool)
  | 0, c, text, gap => some (text, c, gap.broken)
  | fuel + 1, c, text, gap =>
    if c.isDocumentEdge || c.rest.head? == some '#' then some (text, c, gap.broken)
    else do
      let word ← plainWord? flow c.rest
      let after := c.skipMany word.length
      let text := if word.isEmpty then text else text ++ gap.text ++ word
      let kept : Gap := if word.isEmpty then gap else {}
      if !after.rest.head?.any isSpaceOrBreak then some (text, after, kept.broken)
      else
        let (gap, next) ← Gap.read? indent after.rest.length after kept
        if !flow && next.column < indent then some (text, next, gap.broken)
        else plain? flow indent fuel next text gap

/-! ## Quoted scalars -/

/-- The character that a backslash and a letter stand for. -/
def escape? (c : Char) : Option Char :=
  match c with
  | '0' => some '\x00'
  | 'a' => some '\x07'
  | 'b' => some '\x08'
  | 't' => some '\t'
  | '\t' => some '\t'
  | 'n' => some '\n'
  | 'v' => some '\x0b'
  | 'f' => some '\x0c'
  | 'r' => some '\r'
  | 'e' => some '\x1b'
  | ' ' => some ' '
  | '"' => some '"'
  | '/' => some '/'
  | '\\' => some '\\'
  | 'N' => some '\u0085'
  | '_' => some '\u00a0'
  | 'L' => some '\u2028'
  | 'P' => some '\u2029'
  | _ => none

/-- The number of hexadecimal digits after a backslash and this letter. -/
def escapeWidth? (c : Char) : Option Nat :=
  match c with
  | 'x' => some 2
  | 'u' => some 4
  | 'U' => some 8
  | _ => none

/-- The character of a code point written in exactly `width` digits. -/
def codePoint? (width : Nat) (cs : List Char) : Option Char :=
  if cs.length < width then none
  else do
    let n ← Ascii.number? 16 (cs.take width)
    if n.isValidChar then some (Char.ofNat n) else none

/-- Reads the characters of a quoted scalar up to white space or the closing quote; the flag tells that
an escaped line break ended them. -/
def quotedWord? (single : Bool) : Nat → Cursor → List Char → Option (List Char × Cursor × Bool)
  | 0, c, text => some (text, c, false)
  | fuel + 1, c, text =>
    match c.rest with
    | [] => some (text, c, false)
    | a :: rest =>
      if isSpaceOrBreak a then some (text, c, false)
      else if single then
        if a == '\'' then
          if rest.head? == some '\'' then quotedWord? single fuel (c.skipMany 2) (text ++ [a])
          else some (text, c, false)
        else quotedWord? single fuel c.skip (text ++ [a])
      else if a == '"' then some (text, c, false)
      else if a == '\\' then
        match rest with
        | [] => none
        | b :: rest =>
          if isBreak b then some (text, c.skip.skipBreak, true)
          else
            match escapeWidth? b with
            | some width =>
              (codePoint? width rest).bind fun x =>
                quotedWord? single fuel (c.skipMany (2 + width)) (text ++ [x])
            | none => (escape? b).bind fun x => quotedWord? single fuel (c.skipMany 2) (text ++ [x])
      else quotedWord? single fuel c.skip (text ++ [a])

/-- Reads a quoted scalar behind its opening quote, up to and with the closing one. -/
def quoted? (single : Bool) : Nat → Cursor → List Char → Option (List Char × Cursor)
  | 0, _, _ => none
  | fuel + 1, c, text =>
    if c.isDocumentEdge || c.rest.isEmpty then none
    else do
      let (text, c, escaped) ← quotedWord? single c.rest.length c text
      if c.rest.head? == some (if single then '\'' else '"') then some (text, c.skip)
      else
        let (gap, c) ← Gap.read? 0 c.rest.length c { broken := escaped }
        quoted? single fuel c (text ++ gap.text)

/-! ## Block scalars -/

/-- What becomes of the line breaks at the end. -/
inductive Chomp where
  | strip
  | clip
  | keep
  deriving DecidableEq, Repr

def chomp? (c : Char) : Option Chomp :=
  if c == '+' then some .keep else if c == '-' then some .strip else none

/-- An indentation given by a digit; zero is refused. -/
def increment? (cs : List Char) : Option (Option Nat) :=
  match cs with
  | c :: _ =>
    if Ascii.isDigit c then
      if c == '0' then none else some (some (c.toNat - '0'.toNat))
    else some none
  | [] => some none

/-- Reads the head of a block scalar behind its indicator: how its end is treated, and its indentation if
that is given. -/
def blockHead? (c : Cursor) : Option (Chomp × Option Nat × Cursor) :=
  match c.rest.head?.bind chomp? with
  | some chomp => do
    let c := c.skip
    let given ← increment? c.rest
    let c ← (if given.isSome then c.skip else c).finishLine?
    some (chomp, given, c)
  | none => do
    let given ← increment? c.rest
    let c := if given.isSome then c.skip else c
    match if given.isSome then c.rest.head?.bind chomp? else none with
    | some chomp => do
      let c ← c.skip.finishLine?
      some (chomp, given, c)
    | none => do
      let c ← c.finishLine?
      some (.clip, given, c)

/-- Reads the empty lines before a line of a block scalar, and its indentation. With no indentation known
(zero) it is the widest one met. -/
def blockBreaks? (indent : Nat) :
    Nat → Cursor → (widest : Nat) → List Char → Option (Nat × List Char × Cursor)
  | 0, c, widest, breaks => some (widest, breaks, c)
  | fuel + 1, c, widest, breaks =>
    let spaces := (c.rest.takeWhile (· == ' ')).length
    let c := c.skipMany (if indent = 0 then spaces else min spaces (indent - c.column))
    let widest := max widest c.column
    if (indent = 0 || c.column < indent) && c.rest.head? == some '\t' then none
    else if c.rest.head?.any isBreak then
      blockBreaks? indent fuel c.skipBreak widest (breaks ++ c.breakText)
    else some (widest, breaks, c)

/-- Reads the lines of a block scalar. `ending` is the break after the last line and `breaks` those of
the empty lines after it. -/
def blockLines? (literal : Bool) (indent : Nat) :
    Nat → Cursor → (text ending breaks : List Char) → (spaced : Bool) →
      Option (List Char × List Char × List Char × Cursor)
  | 0, c, text, ending, breaks, _ => some (text, ending, breaks, c)
  | fuel + 1, c, text, ending, breaks, spaced =>
    if c.column != indent || c.rest.isEmpty then some (text, ending, breaks, c)
    else do
      let startsSpaced := c.rest.head?.any isSpace
      let joint :=
        if !literal && ending = ['\n'] && !spaced && !startsSpaced then
          if breaks.isEmpty then [' '] else breaks
        else ending ++ breaks
      let line := c.rest.takeWhile (!isBreak ·)
      let after := c.skipMany line.length
      let next := after.skipBreak
      let (_, breaks, c) ← blockBreaks? indent (next.rest.length + 1) next 0 []
      blockLines? literal indent fuel c (text ++ joint ++ line) after.breakText breaks startsSpaced

/-- Reads a block scalar behind its indicator; `parent` is the indentation of the block around it, none
at the top. -/
def block? (literal : Bool) (parent : Option Nat) (c : Cursor) : Option (List Char × Cursor) := do
  let (chomp, given, c) ← blockHead? c
  let least := (parent.map (· + 1)).getD 0
  let known := (given.map (· + parent.getD 0)).getD 0
  let (widest, breaks, c) ← blockBreaks? known (c.rest.length + 1) c 0 []
  let indent := if known = 0 then max (max widest least) 1 else known
  let (text, ending, breaks, c) ← blockLines? literal indent (c.rest.length + 1) c [] [] breaks false
  let tail := match chomp with
    | .strip => []
    | .clip => ending
    | .keep => ending ++ breaks
  some (text ++ tail, c)

end Scalar

end Preseed.Yaml

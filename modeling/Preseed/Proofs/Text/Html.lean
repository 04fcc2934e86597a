import Mathlib.Data.List.Basic
import Preseed.Text.Ascii
import Preseed.Text.Html

/-! # Reading HTML

A page is read character by character, in the states of an HTML tokenizer that tell where markup begins and
where it ends. Markup is kept as it stands between its angle brackets, and character references are decoded
in the text behind it. No tree is built of the markup, and every other character stands for itself.

What `escape` gives holds no angle bracket, so it is read as text wherever text may stand, and decoding it
gives back what was escaped. -/

namespace Preseed.Html

/-! ## Character references -/

/-- The text with the references of `escape` replaced by their characters. -/
def decode : List Char → List Char
  | '&' :: 'a' :: 'm' :: 'p' :: ';' :: cs => '&' :: decode cs
  | '&' :: 'l' :: 't' :: ';' :: cs => '<' :: decode cs
  | '&' :: 'g' :: 't' :: ';' :: cs => '>' :: decode cs
  | '&' :: 'q' :: 'u' :: 'o' :: 't' :: ';' :: cs => '"' :: decode cs
  | '&' :: '#' :: '3' :: '9' :: ';' :: cs => '\'' :: decode cs
  | c :: cs => c :: decode cs
  | [] => []

/-- Only an ampersand begins a reference. -/
theorem decode_cons {c : Char} (h : c ≠ '&') (cs : List Char) : decode (c :: cs) = c :: decode cs := by
  conv_lhs => unfold decode
  split <;> simp_all

theorem decode_escapeChar (c : Char) (cs : List Char) :
    decode (escapeChar c ++ cs) = c :: decode cs := by
  unfold escapeChar
  split_ifs with hamp hlt hgt hquot hapos
  · simp [hamp, decode]
  · simp [hlt, decode]
  · simp [hgt, decode]
  · simp [hquot, decode]
  · simp [hapos, decode]
  · exact decode_cons hamp cs

/-- References are decoded once: the ampersand of an escaped reference is no part of another. -/
theorem decode_escape (s : String) : decode (escape s).toList = s.toList := by
  rw [escape, String.toList_ofList]
  induction s.toList with
  | nil => rfl
  | cons c cs ih => rw [List.flatMap_cons, decode_escapeChar, ih]

theorem lt_not_mem_escape (s : String) : '<' ∉ (escape s).toList := by
  have hchar : ∀ c, '<' ∉ escapeChar c := by
    intro c
    unfold escapeChar
    split_ifs with _ hlt
    iterate 5 decide
    exact fun h => hlt (List.mem_singleton.mp h).symm
  simp [escape, hchar]

/-! ## The reader -/

/-- A character of text, or a tag, declaration or comment as it stands between its angle brackets. -/
inductive Token where
  | char (c : Char)
  | markup (source : List Char)
  deriving DecidableEq, Repr

def isSpace (c : Char) : Bool :=
  c ∈ ['\t', '\n', '\x0c', '\r', ' ']

/-- Where in a tag a reader is. -/
inductive Place where
  | tagName
  | beforeName
  | name
  | afterName
  | beforeValue
  | quoted (quote : Char)
  | unquoted
  deriving DecidableEq, Repr

/-- Where a character leads that does not end the tag. -/
def Place.next : Place → Char → Place
  | tagName, c => if isSpace c || c = '/' then beforeName else tagName
  | beforeName, c => if isSpace c || c = '/' then beforeName else name
  | name, c =>
    if isSpace c then afterName
    else if c = '/' then beforeName
    else if c = '=' then beforeValue
    else name
  | afterName, c =>
    if isSpace c then afterName
    else if c = '/' then beforeName
    else if c = '=' then beforeValue
    else name
  | beforeValue, c =>
    if isSpace c then beforeValue
    else if c = '"' || c = '\'' then quoted c
    else unquoted
  | quoted quote, c => if c = quote then beforeName else quoted quote
  | unquoted, c => if isSpace c then beforeName else unquoted

/-- Within quotes an angle bracket is part of the value. -/
def Place.isQuoted : Place → Bool
  | quoted _ => true
  | _ => false

/-- The state of a reader. -/
inductive State where
  | data
  | tagOpen
  | endTagOpen
  | tag (place : Place) (source : List Char)
  | declaration (source : List Char)
  /-- In an element whose text has no tags but the one that ends it, with what may become that tag. -/
  | rawText (element : List Char) (seen : List Char)
  deriving DecidableEq, Repr

/-- The elements whose text has no tags. -/
def rawElements : List (List Char) :=
  ["title", "textarea", "style", "script", "xmp", "iframe", "noembed", "noframes"].map String.toList

/-- The state behind a tag. -/
def State.behindTag (source : List Char) : State :=
  let element := (source.takeWhile fun c => !isSpace c && c != '/').map Char.toLower
  if element ∈ rawElements then rawText element [] else data

/-- Whether an angle bracket ends a declaration. A comment goes on until two dashes. -/
def closes : List Char → Bool
  | '!' :: '-' :: '-' :: text =>
    text = [] || text = ['-'] || ['-', '-'].isSuffixOf text || ['-', '-', '!'].isSuffixOf text
  | _ => true

/-- Text, and where it ends. -/
def readText (c : Char) : State × List Token :=
  if c = '<' then (.tagOpen, []) else (.data, [.char c])

def step : State → Char → State × List Token
  | .data, c => readText c
  | .tagOpen, c =>
    if c = '/' then (.endTagOpen, [])
    else if Ascii.isLetter c then (.tag .tagName [c], [])
    else if c = '!' || c = '?' then (.declaration [c], [])
    -- An angle bracket that opens nothing is text, and the next character may open a tag again.
    else ((readText c).1, .char '<' :: (readText c).2)
  | .endTagOpen, c =>
    if Ascii.isLetter c then (.tag .tagName ['/', c], [])
    else if c = '>' then (.data, [])
    else (.declaration ['/', c], [])
  | .tag place source, c =>
    if c = '>' && !place.isQuoted then (State.behindTag source, [.markup source])
    else (.tag (place.next c) (source ++ [c]), [])
  | .declaration source, c =>
    if c = '>' && closes source then (.data, [.markup source])
    else (.declaration (source ++ [c]), [])
  | .rawText element seen, c =>
    let ending := '<' :: '/' :: element
    if seen.map Char.toLower = ending && c = '>' then (.data, [.markup seen.tail])
    else if seen.map Char.toLower = ending && (isSpace c || c = '/') then
      (.tag .beforeName (seen.tail ++ [c]), [])
    else if ((seen ++ [c]).map Char.toLower).isPrefixOf ending then (.rawText element (seen ++ [c]), [])
    else if c = '<' then (.rawText element ['<'], seen.map .char)
    else (.rawText element [], (seen ++ [c]).map .char)

def feed : State → List Char → State × List Token
  | s, [] => (s, [])
  | s, c :: cs => ((feed (step s c).1 cs).1, (step s c).2 ++ (feed (step s c).1 cs).2)

/-- What the end of a page makes of a state. A tag that has no end is not there. -/
def State.atEnd : State → List Token
  | data => []
  | tagOpen => [.char '<']
  | endTagOpen => [.char '<', .char '/']
  | tag _ _ => []
  | declaration source => [.markup source]
  | rawText _ seen => seen.map .char

def tokens (page : String) : List Token :=
  (feed .data page.toList).2 ++ (feed .data page.toList).1.atEnd

/-- Markup and the text behind it. -/
structure Piece where
  markup : String
  text : String
  deriving DecidableEq, Repr

/-- The text before all markup, and the pieces. -/
def layOut : List Token → List Char × List Piece
  | [] => ([], [])
  | .char c :: ts => (c :: (layOut ts).1, (layOut ts).2)
  | .markup source :: ts =>
    ([], ⟨String.ofList source, String.ofList (decode (layOut ts).1)⟩ :: (layOut ts).2)

/-- A page as a reader of HTML sees it: the text before all markup, and the pieces. -/
def read (page : String) : String × List Piece :=
  (String.ofList (decode (layOut (tokens page)).1), (layOut (tokens page)).2)

/-! ## Pages in pieces -/

theorem feed_append (s : State) (cs ds : List Char) :
    feed s (cs ++ ds) =
      ((feed (feed s cs).1 ds).1, (feed s cs).2 ++ (feed (feed s cs).1 ds).2) := by
  induction cs generalizing s with
  | nil => rfl
  | cons c cs ih => simp only [List.cons_append, feed, ih, List.append_assoc]

theorem feed_text {cs : List Char} (h : '<' ∉ cs) : feed .data cs = (.data, cs.map .char) := by
  induction cs with
  | nil => rfl
  | cons c cs ih =>
    obtain ⟨hc, hcs⟩ : '<' ≠ c ∧ '<' ∉ cs := by simpa using h
    have hstep : step .data c = (.data, [.char c]) := if_neg hc.symm
    simp only [feed, hstep, ih hcs, List.map_cons, List.singleton_append]

/-- What is read of a piece whose text is escaped. -/
def Piece.tokens (p : Piece) : List Token :=
  .markup p.markup.toList :: (escape p.text).toList.map .char

theorem layOut_text (cs : List Char) (ts : List Token) :
    layOut (cs.map .char ++ ts) = (cs ++ (layOut ts).1, (layOut ts).2) := by
  induction cs with
  | nil => rfl
  | cons c cs ih => simp only [List.map_cons, List.cons_append, layOut, ih]

theorem layOut_tokens (ps : List Piece) : layOut (ps.flatMap Piece.tokens) = ([], ps) := by
  induction ps with
  | nil => rfl
  | cons p ps ih =>
    rw [List.flatMap_cons, Piece.tokens, List.cons_append, layOut, layOut_text, ih, List.append_nil,
      decode_escape, String.ofList_toList, String.ofList_toList]

/-- Reading the characters gives the pieces, and nothing is left open. -/
def Reads (cs : List Char) (ps : List Piece) : Prop :=
  feed .data cs = (.data, ps.flatMap Piece.tokens)

instance (cs : List Char) (ps : List Piece) : Decidable (Reads cs ps) :=
  inferInstanceAs (Decidable (_ = _))

theorem Reads.append {cs ds : List Char} {ps qs : List Piece} (h : Reads cs ps) (h' : Reads ds qs) :
    Reads (cs ++ ds) (ps ++ qs) := by
  unfold Reads at *
  rw [feed_append, h, h', List.flatMap_append]

theorem Reads.read_eq {page : String} {ps : List Piece} (h : Reads page.toList ps) :
    read page = ("", ps) := by
  have htokens : Html.tokens page = ps.flatMap Piece.tokens := by
    rw [Html.tokens, h, State.atEnd, List.append_nil]
  rw [read, htokens, layOut_tokens]
  rfl

/-- The markup is read as it stands and text follows. -/
def IsPlain (markup : String) : Prop :=
  feed .data ('<' :: markup.toList ++ ['>']) = (.data, [.markup markup.toList])

instance (markup : String) : Decidable (IsPlain markup) :=
  inferInstanceAs (Decidable (_ = _))

/-- A piece as it is written. -/
def Piece.source (p : Piece) : List Char :=
  '<' :: p.markup.toList ++ ['>'] ++ (escape p.text).toList

theorem reads_source {ps : List Piece} (h : ∀ p ∈ ps, IsPlain p.markup) :
    Reads (ps.flatMap Piece.source) ps := by
  induction ps with
  | nil => rfl
  | cons p ps ih =>
    have hp : Reads p.source [p] := by
      rw [Reads, Piece.source, feed_append, h p List.mem_cons_self,
        feed_text (lt_not_mem_escape p.text), List.flatMap_singleton]
      rfl
    exact hp.append (ih fun q hq => h q (List.mem_cons_of_mem p hq))

end Preseed.Html

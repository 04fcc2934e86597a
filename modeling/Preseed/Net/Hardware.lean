import Preseed.Net.Address
import Preseed.Text.Utf8
import Preseed.Text.Blank
import Preseed.Text.Lines
import Preseed.Text.Word

/-!
# Hardware addresses

Six groups of hexadecimal digits, normalised to two small digits each with colons between. They are
found in the kernel's table of neighbours, which lists them by address, or anywhere in a text.
-/

namespace Preseed.Net.Hardware

def isSeparator (c : Char) : Bool :=
  c == ':' || c == '-'

/-- The pieces of a text between separators. -/
def groups : List Char → List (List Char)
  | [] => [[]]
  | c :: rest =>
    if isSeparator c then [] :: groups rest
    else
      match groups rest with
      | piece :: pieces => (c :: piece) :: pieces
      | [] => [[c]]

/-- A group in small letters, filled up to two characters with zeros on the left. -/
def padGroup (cs : List Char) : List Char :=
  List.replicate (2 - cs.length) '0' ++ cs.map Char.toLower

/-- The address in small letters with colons and two digits a group; none unless there are six groups of
two bytes. -/
def normalize? (cs : List Char) : Option (List Char) :=
  let octets := (groups cs).map padGroup
  if octets.length == 6 && octets.all (fun o => (Utf8.encode o).length == 2) then
    some ([':'].intercalate octets)
  else none

/-- The address that stands for "unknown". -/
def zero : List Char := "00:00:00:00:00:00".toList

/-- The usable hardware address in one line of the table, if the line is about `wanted`. -/
def ofTableLine? (wanted : List Char) (line : List Char) : Option (List Char) :=
  match Blank.words line with
  | address :: _ :: _ :: mac :: _ =>
    if address = wanted then (normalize? mac).filter (· ≠ zero) else none
  | _ => none

/-- Looks an address up in a table, whose first line is a heading. -/
def ofTable? (table : String) (ip : Address) : Option String :=
  (((Lines.split table.toList).drop 1).findSome? (ofTableLine? ip.toChars)).map String.ofList

/-- Whether a word ends or begins between two neighbours; none is the edge of the text. -/
def isBoundary (before after : Option Char) : Bool :=
  before.any Word.isWord != after.any Word.isWord

/-- The shapes of six groups at the head of a text, the longest digits first: the characters read and
those left. -/
def candidates : Nat → List Char → List (List Char × List Char)
  | n, c :: d :: rest =>
    if !Ascii.isHexDigit c then []
    else
      let long := if Ascii.isHexDigit d then more n [c, d] rest else []
      long ++ more n [c] (d :: rest)
  | n, [c] => if Ascii.isHexDigit c then more n [c] [] else []
  | _, [] => []
where
  /-- Goes on after the digits of a group: `n` groups are still to come. -/
  more (n : Nat) (digits : List Char) (rest : List Char) : List (List Char × List Char) :=
    match n, rest with
    | 0, _ => [(digits, rest)]
    | n + 1, s :: rest =>
      if isSeparator s then
        (candidates n rest).map fun (read, left) => (digits ++ s :: read, left)
      else []
    | _ + 1, [] => []

/-- The match that starts here, given the character before. -/
def matchAt? (before : Option Char) (cs : List Char) : Option (List Char) :=
  if !isBoundary before cs.head? then none
  else
    ((candidates 5 cs).find? fun (read, left) => isBoundary read.getLast? left.head?).map (·.1)

def search? (before : Option Char) : List Char → Option (List Char)
  | [] => none
  | c :: rest =>
    match matchAt? before (c :: rest) with
    | some found => some found
    | none => search? (some c) rest

/-- The first hardware address in a text: six groups of one or two digits, with word boundaries at both
ends. -/
def find? (text : String) : Option String :=
  ((search? none text.toList).bind normalize?).map String.ofList

end Preseed.Net.Hardware

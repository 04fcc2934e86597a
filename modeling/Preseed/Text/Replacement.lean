import Preseed.Text.Ranges

/-!
# Replacements of characters

A table of replacements has entries `41=61` for one character, `41-5A=61` for characters whose images
follow one another, and `100-12E/2=101` for every second one of them. Of an image of several characters,
such as `1F08+399`, only the first moves along; an image may be empty.
-/

namespace Preseed

/-- The image of every `stride`-th code point from `first` to `last`. -/
structure Replacement where
  first : Nat
  last : Nat
  stride : Nat
  image : List Nat
  deriving DecidableEq, Repr

namespace Replacement

/-- The numbers behind one of some marks. -/
def behind (marks : List Char) (entry : Table.Entry) : List Nat :=
  (entry.filter fun (mark, _) => marks.contains mark).map (·.2)

def ofEntry? (entry : Table.Entry) : Option Replacement :=
  match entry with
  | [] => none
  | (_, first) :: rest =>
    some
      { first
        last := (behind ['-'] rest).head?.getD first
        stride := (behind ['/'] rest).head?.getD 1
        image := behind ['=', '+'] rest }

/-- The replacements that a text writes. -/
def ofText (text : String) : List Replacement :=
  (Table.entries text).filterMap ofEntry?

def imageOf? (r : Replacement) (n : Nat) : Option (List Nat) :=
  if r.first ≤ n && n ≤ r.last && (n - r.first) % r.stride == 0 then
    some (match r.image with
      | [] => []
      | a :: rest => (a + (n - r.first)) :: rest)
  else none

/-- The image of a character in a table. -/
def find? (table : List Replacement) (c : Char) : Option (List Char) :=
  (table.findSome? fun r => r.imageOf? c.toNat).map fun image => image.map Char.ofNat

end Replacement

end Preseed

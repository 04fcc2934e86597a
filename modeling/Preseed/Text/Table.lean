import Preseed.Text.Ascii

/-!
# Tables of numbers

A table is a text of entries between white space. An entry is a row of hexadecimal numbers with marks
between them, and a mark may also end it.
-/

namespace Preseed.Table

/-- Numbers, each with the mark before it; the first has a space. -/
abbrev Entry := List (Char × Nat)

/-- The state of reading one character after the other; the entries stand in reverse. -/
structure Reading where
  done : List Entry := []
  entry : Entry := []
  mark : Char := ' '
  digits : Option Nat := none

namespace Reading

def endNumber (r : Reading) (mark : Char) : Reading :=
  match r.digits with
  | some n => { r with entry := (r.mark, n) :: r.entry, mark, digits := none }
  | none => { r with mark }

def endEntry (r : Reading) : Reading :=
  let r := r.endNumber ' '
  if r.entry.isEmpty then r else { done := r.entry.reverse :: r.done }

def step (r : Reading) (c : Char) : Reading :=
  match Ascii.hexValue? c with
  | some d => { r with digits := some (16 * r.digits.getD 0 + d) }
  | none => if c = ' ' || c = '\n' then r.endEntry else r.endNumber c

end Reading

/-- The entries that a text writes. -/
def entries (text : String) : List Entry :=
  (text.toList.foldl Reading.step {}).endEntry.done.reverse

end Preseed.Table

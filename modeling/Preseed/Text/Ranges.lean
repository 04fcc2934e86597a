import Preseed.Text.Table

/-!
# Sets of characters as ranges

A set is written as a table of hexadecimal code points and ranges `first-last`.
-/

namespace Preseed

/-- A set of code points, as its ranges with both ends. -/
abbrev Ranges := List (Nat × Nat)

namespace Ranges

def contains (ranges : Ranges) (n : Nat) : Bool :=
  ranges.any fun (first, last) => first ≤ n && n ≤ last

def ofEntry? : Table.Entry → Option (Nat × Nat)
  | [(_, n)] => some (n, n)
  | [(_, first), (_, last)] => some (first, last)
  | _ => none

/-- The ranges that a text writes. -/
def ofText (text : String) : Ranges :=
  (Table.entries text).filterMap ofEntry?

end Ranges

end Preseed

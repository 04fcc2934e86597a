import Preseed.Text.Ascii

/-!
# Words of a POSIX shell

A text of characters that the shell never interprets is written as it is. Any other text stands between
single quotes, and a single quote in it closes the quotes, stands escaped, and opens them again.
-/

namespace Preseed.Shell

/-- Characters that mean themselves wherever they stand in a word. -/
def isInert (c : Char) : Bool :=
  Ascii.isAlphanumeric c || c ∈ ['-', '_', '.', '/', ':', '=', '@', '%', '+', ',']

def escapeQuote (c : Char) : List Char :=
  if c = '\'' then ['\'', '\\', '\'', '\''] else [c]

def quoteChars (cs : List Char) : List Char :=
  if !cs.isEmpty && cs.all isInert then cs
  else '\'' :: (cs.flatMap escapeQuote ++ ['\''])

/-- The text written as one word. -/
def quote (s : String) : String :=
  String.ofList (quoteChars s.toList)

end Preseed.Shell

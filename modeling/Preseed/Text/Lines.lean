/-!
# Lines of a text

A line ends at a line feed; a carriage return directly before that line feed belongs to the ending.
A last line without a line feed is kept whole, and no empty line follows a final line feed.
-/

namespace Preseed.Lines

def split : List Char → List (List Char)
  | [] => []
  | c :: rest =>
    if c = '\n' then [] :: split rest
    else
      match rest with
      | [] => [[c]]
      | d :: more =>
        if c = '\r' ∧ d = '\n' then [] :: split more
        else
          match split (d :: more) with
          | line :: lines => (c :: line) :: lines
          | [] => [[c]]

/-- The lines of a text. -/
def ofString (s : String) : List String :=
  (split s.toList).map String.ofList

/-- Every line followed by a line feed. -/
def join (lines : List String) : String :=
  String.ofList (lines.flatMap fun line => line.toList ++ ['\n'])

end Preseed.Lines

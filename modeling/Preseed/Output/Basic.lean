import Preseed.Output.Directive
import Preseed.Text.Lines

/-!
# Output

The lines of a preseed file or a shell script, in the order in which they are written.
-/

namespace Preseed

structure Output where
  lines : List String := []
  deriving DecidableEq, Repr, Inhabited

namespace Output

def empty : Output := {}

/-- Adds one line; line feeds in it are kept. -/
def line (out : Output) (s : String) : Output :=
  { lines := out.lines ++ [s] }

def append (out : Output) (lines : List String) : Output :=
  { lines := out.lines ++ lines }

/-- Adds every line of a block of text. -/
def text (out : Output) (block : String) : Output :=
  out.append (Lines.ofString block)

def comment (out : Output) (s : String) : Output :=
  out.line ("# " ++ s)

def blank (out : Output) : Output :=
  out.line ""

/-- Adds a title between two empty comments, and a blank line. -/
def banner (out : Output) (title : String) : Output :=
  (((out.line "#").comment title).line "#").blank

def directive (out : Output) (d : Directive) : Output :=
  out.line d.text

def isEmpty (out : Output) : Bool :=
  out.lines.isEmpty

/-- Every line with a line feed behind it. -/
def render (out : Output) : String :=
  Lines.join out.lines

end Output

end Preseed

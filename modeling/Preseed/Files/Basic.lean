import Preseed.Text.Split
import Preseed.Text.Utf8

/-!
# Files

A tree of files below the working directory, and what reading a file or listing a directory gives.
-/

namespace Preseed

inductive FileError where
  | notFound
  | notADirectory
  | isADirectory
  | invalidText
  /-- Anything else, in the words of the system. -/
  | other (text : String)
  deriving DecidableEq, Repr

namespace FileError

def message : FileError → String
  | notFound => "No such file or directory (os error 2)"
  | notADirectory => "Not a directory (os error 20)"
  | isADirectory => "Is a directory (os error 21)"
  | invalidText => "stream did not contain valid UTF-8"
  | other text => text

end FileError

inductive FileNode where
  | file (content : Bytes)
  | directory
  deriving DecidableEq, Repr

/-- An item of a directory. Its name need not be text. -/
structure DirItem where
  name : Bytes
  isFile : Bool
  deriving DecidableEq, Repr

/-- Files and directories by the parts of their paths from the working directory; that of an absolute path
is `/` and the parts behind it. Directories on the way to an item are there without being listed, and of
two items with one path the later counts. -/
structure FileTree where
  items : List (List String × FileNode) := []
  deriving Inhabited

namespace FileTree

/-- The parts of a path, between its slashes. -/
def components (path : String) : List String :=
  (Split.pieces '/' path.toList).map String.ofList

/-- The directory that stands for the root of absolute paths. -/
def root : List String := ["/"]

/-- Where following a path begins. -/
def origin (path : String) : List String :=
  if path.toList.head? == some '/' then root else []

/-- The directory above a place. -/
def above (place : List String) : List String :=
  if place = root then root else place.dropLast

/-- The place that a path names if nothing on its way is missing or a file. -/
def place (path : String) : List String :=
  (components path).foldl (fun here part =>
    if part = "" || part = "." then here
    else if part = ".." then above here
    else here ++ [part]) (origin path)

/-- A tree with one more item. -/
def add (t : FileTree) (path : String) (node : FileNode) : FileTree :=
  { items := (place path, node) :: t.items }

/-- The item at a place. -/
def node? (t : FileTree) (place : List String) : Option FileNode :=
  if place.isEmpty || place = root then some .directory
  else
    match t.items.lookup place with
    | some node => some node
    | none => if t.items.any fun i => place.isPrefixOf i.1 then some .directory else none

/-- Follows the parts of a path from a directory. -/
def walk (t : FileTree) (here : List String) : List String → Except FileError (List String)
  | [] => .ok here
  | part :: rest =>
    match t.node? here with
    | none => .error .notFound
    | some (.file _) => .error .notADirectory
    | some .directory =>
      if part = "" || part = "." then walk t here rest
      else if part = ".." then walk t (above here) rest
      else walk t (here ++ [part]) rest

/-- The item that a path names, and its place. -/
def find (t : FileTree) (path : String) : Except FileError (List String × FileNode) := do
  if path.isEmpty then throw .notFound
  let here ← t.walk (origin path) (components path)
  match t.node? here with
  | some node => pure (here, node)
  | none => throw .notFound

def readBytes (t : FileTree) (path : String) : Except FileError Bytes := do
  match ← t.find path with
  | (_, .directory) => throw .isADirectory
  | (_, .file content) => pure content

/-- The text that a file holds. -/
def read (t : FileTree) (path : String) : Except FileError String := do
  match Utf8.toString? (← t.readBytes path) with
  | some text => pure text
  | none => throw .invalidText

/-- The names directly below a place. -/
def names (t : FileTree) (here : List String) : List String :=
  ((t.items.filterMap fun i =>
    if here.isPrefixOf i.1 then i.1[here.length]? else none).filter (· != "/")).eraseDups

/-- The items of a directory. -/
def list (t : FileTree) (path : String) : Except FileError (List DirItem) := do
  match ← t.find path with
  | (_, .file _) => throw .notADirectory
  | (here, .directory) =>
    pure ((t.names here).map fun name =>
      { name := Utf8.ofString name
        isFile := match t.node? (here ++ [name]) with
          | some (.file _) => true
          | _ => false })

/-- A name below a directory, written as a path. -/
def join (directory name : String) : String :=
  if directory.isEmpty || directory.toList.getLast? == some '/' then directory ++ name
  else directory ++ "/" ++ name

end FileTree

end Preseed

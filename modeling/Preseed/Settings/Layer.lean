import Preseed.Settings.Raw
import Preseed.Text.Split

/-!
# Layers of settings

Layers are laid over one another: tables are merged entry by entry, and of other settings the upper one
counts. Names are kept in small letters.
-/

namespace Preseed

namespace RawSetting

/-- A name in small letters; the sign of the kelvin is a capital letter, too. -/
def lowerName (name : String) : String :=
  String.ofList (name.toList.map fun c => if c = '\u212A' then 'k' else c.toLower)

mutual

/-- Lays a setting with a name over what a table has by that name. -/
def overlay (name : String) : RawSetting → RawSetting → RawSetting
  | table entries, below =>
    let key := lowerName name
    below.put key (overlayAll entries ((below.get? key).getD (table [])))
  | null, below => below.put (lowerName name) null
  | bool b, below => below.put (lowerName name) (bool b)
  | integer i, below => below.put (lowerName name) (integer i)
  | real d, below => below.put (lowerName name) (real d)
  | text s, below => below.put (lowerName name) (text s)
  | list items, below => below.put (lowerName name) (list items)

def overlayAll : List (String × RawSetting) → RawSetting → RawSetting
  | [], below => below
  | (name, v) :: rest, below => overlayAll rest (overlay name v below)

end

/-- Lays a setting over what is found by following names. -/
def overlayAt : List String → RawSetting → RawSetting → RawSetting
  | [], _, below => below
  | [name], v, below => overlay name v below
  | name :: names, v, below =>
    below.put name (overlayAt names v ((below.get? name).getD null))

def isPathChar (c : Char) : Bool :=
  Ascii.isAlphanumeric c || c = ' ' || c = '_' || c = '-'

/-- The names that a name with points consists of; other names are whole. -/
def path (name : String) : List String :=
  let parts := Split.pieces '.' name.toList
  if parts.all fun part => !part.isEmpty && part.all isPathChar then parts.map String.ofList
  else [name]

end RawSetting

/-- Settings by names that may lead through tables. -/
abbrev Layer := List (String × RawSetting)

namespace Layer

/-- What several layers give together, the lowest first. -/
def merge (layers : List Layer) : RawSetting :=
  layers.flatten.foldl (fun below (name, v) => RawSetting.overlayAt (RawSetting.path name) v below)
    (.table [])

end Layer

end Preseed

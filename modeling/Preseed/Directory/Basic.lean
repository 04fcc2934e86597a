import Preseed.Directory.Entry

/-!
# Directories

A directory holds entries that are searched below a base. It may refuse connections, or fail every
search. It counts the sessions that were closed.
-/

namespace Preseed

inductive DirectoryError where
  /-- The directory could not be reached or did not accept the client. -/
  | connect (text : String)
  /-- A search failed. -/
  | search (text : String)
  deriving DecidableEq, Repr

namespace DirectoryError

def message : DirectoryError → String
  | connect text => text
  | search text => text

end DirectoryError

/-- The part of the tree below a base that a search covers. -/
inductive Scope where
  /-- The base itself. -/
  | base
  /-- The entries directly below the base. -/
  | oneLevel
  /-- The base and everything below it. -/
  | subtree
  deriving DecidableEq, Repr

namespace Scope

/-- What stands before the given end of a text. -/
def stripSuffix? (suffix cs : List Char) : Option (List Char) :=
  if suffix.isSuffixOf cs then some (cs.take (cs.length - suffix.length)) else none

/-- Whether a name is in scope below a base; both are in small letters. -/
def covers (scope : Scope) (base dn : List Char) : Bool :=
  match scope with
  | .base => dn == base
  | .oneLevel =>
    match (stripSuffix? base dn).bind (stripSuffix? [',']) with
    | some first => !first.isEmpty && !first.contains ','
    | none => false
  | .subtree =>
    base.isEmpty || dn == base || (stripSuffix? base dn).any fun above => above.getLast? == some ','

/-- Whether a name is in scope below a base, without regard to ASCII case. -/
def contains (scope : Scope) (base dn : String) : Bool :=
  scope.covers (Ascii.lower base).toList (Ascii.lower dn).toList

end Scope

structure SearchRequest where
  base : String
  scope : Scope := .subtree
  filter : Filter
  /-- The attributes asked for; a directory may return more. -/
  attributes : List String := []

/-- An open session: what each search answers. Closing it changes no later answer, so that those who hold it
only tell how often they close it. -/
structure Session where
  search : SearchRequest → Except DirectoryError (List Entry)

structure Directory where
  entries : List Entry := []
  /-- Why connections are refused, if they are. -/
  connectError : Option String := none
  /-- Why every search fails, if it does. -/
  searchError : Option String := none
  /-- The number of sessions closed so far. -/
  closed : Nat := 0
  deriving Inhabited

namespace Directory

def ofEntries (entries : List Entry) : Directory :=
  { entries }

def unreachable (text : String) : Directory :=
  { connectError := some text }

def failingSearch (text : String) : Directory :=
  { searchError := some text }

/-- The entries in scope that the filter accepts, in the order of the directory. -/
def search (d : Directory) (request : SearchRequest) : Except DirectoryError (List Entry) :=
  match d.searchError with
  | some text => .error (.search text)
  | none =>
    .ok (d.entries.filter fun e =>
      request.scope.contains request.base e.dn && request.filter.accepts e)

def session (d : Directory) : Session :=
  { search := d.search }

def connect (d : Directory) : Except DirectoryError Session :=
  match d.connectError with
  | some text => .error (.connect text)
  | none => .ok d.session

/-- Closes a session as often as is said. -/
def close (d : Directory) (times : Nat) : Directory :=
  { d with closed := d.closed + times }

end Directory

end Preseed

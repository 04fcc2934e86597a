import Preseed.Text.Split

/-!
# Request targets

What a request line asks for: a path with a query, either alone or behind a scheme and an authority.
-/

namespace Preseed

structure Target where
  /-- The path as it is written; empty for an authority alone. -/
  path : String
  /-- The query without its question mark. -/
  query : Option String := none
  deriving DecidableEq, Repr

namespace Target

/-- A path and a query; a path of no characters is `/`, and a fragment is left out. -/
def ofPathAndQuery (cs : List Char) : Target :=
  let (cs, _) := Split.cut '#' cs
  match Split.cut? '?' cs with
  | some (path, query) =>
    { path := if path.isEmpty then "/" else String.ofList path
      query := some (String.ofList query) }
  | none => { path := if cs.isEmpty then "/" else String.ofList cs }

/-- What follows the mark between a scheme and an authority. -/
def afterScheme? : List Char → Option (List Char)
  | ':' :: '/' :: '/' :: rest => some rest
  | _ :: rest => afterScheme? rest
  | [] => none

def endsAuthority (c : Char) : Bool :=
  c = '/' || c = '?' || c = '#'

def ofString (s : String) : Target :=
  let cs := s.toList
  if cs.head? = some '/' || cs = ['*'] then ofPathAndQuery cs
  else
    match afterScheme? cs with
    | some rest => ofPathAndQuery (rest.dropWhile (!endsAuthority ·))
    | none => { path := "" }

end Target

end Preseed

import Preseed.Directory.Basic

/-!
# Classes in a directory

A class of clients is an entry of a configured object class that lists the clients' names as its members.
-/

namespace Preseed

/-- Where and how classes are looked up. -/
structure ClassLookup where
  baseDn : String
  objectClass : String
  /-- The attribute that holds the names of the members. -/
  memberAttribute : String
  /-- The attribute that holds the name of the class. -/
  classAttribute : String

namespace ClassLookup

/-- The filter for the classes of a client. -/
def filter (lookup : ClassLookup) (client : String) : Filter :=
  .all [.equals "objectClass" lookup.objectClass, .equals lookup.memberAttribute client]

def request (lookup : ClassLookup) (client : String) : SearchRequest :=
  { base := lookup.baseDn, filter := lookup.filter client, attributes := [lookup.classAttribute] }

/-- The names of the client's classes in the order of the entries. -/
def classes (lookup : ClassLookup) (session : Session) (client : String) :
    Except DirectoryError (List String) := do
  let entries ← session.search (lookup.request client)
  pure (entries.flatMap fun e => e.values lookup.classAttribute)

end ClassLookup

end Preseed

import Preseed.Net.Address
import Preseed.Net.Form

/-!
# URLs

The parts of a URL, already in the form in which they are written, and the whole as text.
-/

namespace Preseed

/-- The host of a URL. -/
inductive Host where
  /-- A name in ASCII, or the uninterpreted host of a scheme without rules of its own. -/
  | name (text : String)
  | v4 (address : Net.IPv4)
  | v6 (address : Net.IPv6)
  deriving DecidableEq, Repr

namespace Host

def isEmpty : Host → Bool
  | name text => text.isEmpty
  | _ => false

protected def toString : Host → String
  | name text => text
  | v4 address => String.ofList address.toChars
  | v6 address => "[" ++ String.ofList address.toHexChars ++ "]"

end Host

/-- The path of a URL: segments, each behind a slash, or a text without structure. -/
inductive UrlPath where
  | segments (names : List String)
  | opaqueText (text : String)
  deriving DecidableEq, Repr

namespace UrlPath

protected def toString : UrlPath → String
  | segments names => String.join (names.map ("/" ++ ·))
  | opaqueText text => text

end UrlPath

structure Url where
  scheme : String
  username : String := ""
  password : String := ""
  /-- None where the URL has no authority. -/
  host : Option Host := none
  /-- None for the scheme's own port. -/
  port : Option Nat := none
  path : UrlPath
  query : Option String := none
  fragment : Option String := none
  deriving DecidableEq, Repr

inductive UrlError where
  | relative
  | emptyHost
  | invalidDomain
  | invalidDomainCharacter
  | invalidPort
  | invalidIPv4
  | invalidIPv6
  deriving DecidableEq, Repr

namespace UrlError

def message : UrlError → String
  | relative => "relative URL without a base"
  | emptyHost => "empty host"
  | invalidDomain => "invalid international domain name"
  | invalidDomainCharacter => "invalid domain character"
  | invalidPort => "invalid port number"
  | invalidIPv4 => "invalid IPv4 address"
  | invalidIPv6 => "invalid IPv6 address"

end UrlError

namespace Url

/-- The user and the password with an `@` behind them, if either is there. -/
def credentials (u : Url) : String :=
  let password := if u.password.isEmpty then "" else ":" ++ u.password
  if u.username.isEmpty && u.password.isEmpty then "" else u.username ++ password ++ "@"

/-- What stands between the scheme and the path. A path that begins with an empty segment is kept apart
from the slashes of an authority. -/
def authority (u : Url) : String :=
  match u.host with
  | some host =>
    "//" ++ u.credentials ++ host.toString ++
      (match u.port with
        | some port => ":" ++ toString port
        | none => "")
  | none =>
    match u.path with
    | .segments ("" :: _ :: _) => "/."
    | _ => ""

protected def toString (u : Url) : String :=
  u.scheme ++ ":" ++ u.authority ++ u.path.toString ++
    (match u.query with
      | some query => "?" ++ query
      | none => "") ++
    (match u.fragment with
      | some fragment => "#" ++ fragment
      | none => "")

/-- An unstructured path ends in no space when nothing follows it. -/
def trimPath : UrlPath → UrlPath
  | .opaqueText text =>
    .opaqueText (String.ofList (text.toList.reverse.dropWhile (· == ' ')).reverse)
  | path => path

/-- The URL without query and fragment. -/
def withoutQuery (u : Url) : Url :=
  { u with query := none, fragment := none, path := trimPath u.path }

/-- The URL with form-encoded pairs as its query. -/
def withPairs (u : Url) (pairs : List (String × String)) : Url :=
  { u with query := some (String.ofList (Form.encode pairs)) }

end Url

end Preseed

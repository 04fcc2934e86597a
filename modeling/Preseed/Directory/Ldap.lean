import Preseed.Directory.Basic
import Preseed.Net.Url.Parser
import Preseed.Settings.Basic

/-!
# Directory servers

How a session with a directory server is opened, and how its failures count for a request. The server
itself is given by what it answers.
-/

namespace Preseed

inductive LdapFailure where
  /-- The server answered with a result code and a text. -/
  | result (code : Nat) (text : String)
  | unknownScheme (scheme : String)
  | url (error : UrlError)
  /-- Anything else, such as a connection that is refused. -/
  | other (text : String)
  deriving DecidableEq, Repr

namespace LdapFailure

def message : LdapFailure → String
  | result code text => text ++ " (rc=" ++ toString code ++ ")"
  | unknownScheme scheme => "unknown LDAP URL scheme: " ++ scheme
  | url error => "url parse error: " ++ error.message
  | other text => text

/-- A server's answer fails a search; anything else fails the connection. -/
def toError : LdapFailure → DirectoryError
  | result code text => .search (result code text).message
  | failure => .connect failure.message

/-- While a client identifies itself every failure fails the connection. -/
def toBindError (failure : LdapFailure) : DirectoryError :=
  .connect failure.message

/-- Why no server is even asked, if its URL names none. -/
def ofUrl? (text : String) : Option LdapFailure :=
  match Url.parse text with
  | .error e => some (.url e)
  | .ok u => if u.scheme ∈ ["ldap", "ldaps", "ldapi"] then none else some (.unknownScheme u.scheme)

end LdapFailure

/-- What a directory server answers. -/
structure LdapServer where
  /-- What comes of a connection with these settings, which name the server. -/
  connect : LdapSettings → Except LdapFailure Unit
  /-- What comes of identifying oneself by a name and a password. -/
  bind : String → String → Except LdapFailure Unit
  /-- What searches find. -/
  directory : Directory

namespace LdapServer

/-- Connects and identifies the client, if the settings have a name for it. -/
def accept (server : LdapServer) (settings : LdapSettings) : Except DirectoryError Unit :=
  match LdapFailure.ofUrl? settings.url with
  | some failure => .error failure.toError
  | none =>
    match server.connect settings with
    | .error failure => .error failure.toError
    | .ok () =>
      match settings.bindDn with
      | none => .ok ()
      | some dn =>
        match server.bind dn (settings.bindPassword.getD "") with
        | .error failure => .error failure.toBindError
        | .ok () => .ok ()

end LdapServer

namespace Directory

/-- The directory of a server, as a client with these settings sees it. -/
def ofServer (server : LdapServer) (settings : LdapSettings) : Directory :=
  match server.accept settings with
  | .ok () => server.directory
  | .error e => unreachable e.message

end Directory

end Preseed

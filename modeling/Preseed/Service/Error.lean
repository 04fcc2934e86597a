import Preseed.Plugin.Basic

/-!
# Failures of requests

A failed request is answered by one comment, since installers read the answer as a preseed file or a
script.
-/

namespace Preseed

inductive ServiceError where
  | directory (error : DirectoryError)
  | plugin (error : PluginError)
  | badRequest (text : String)
  deriving DecidableEq, Repr

namespace ServiceError

def message : ServiceError → String
  | directory cause => "LDAP Error " ++ cause.message
  | plugin cause => "Plugin Error " ++ cause.message
  | badRequest text => "Bad Request " ++ text

/-- The status of the answer. -/
def status : ServiceError → Nat
  | directory _ => 503
  | plugin _ => 500
  | badRequest _ => 400

/-- The answer's text. -/
def body (e : ServiceError) : String :=
  "# " ++ e.message ++ "\n"

end ServiceError

end Preseed

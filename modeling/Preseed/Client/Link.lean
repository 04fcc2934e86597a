import Preseed.Client.Basic
import Preseed.Net.Url.Basic
import Preseed.Text.Shell

/-!
# Script links

The URL from which an installer fetches a script, and the shell line that fetches and runs it. The URL
carries the facts that a request gave of its client, but neither a name nor classes.
-/

namespace Preseed

/-- The endpoint that scripts are fetched from. -/
structure ScriptLink where
  base : Url
  deriving DecidableEq, Repr

namespace ScriptLink

/-- A link to an endpoint, whose query and fragment do not count. -/
def ofUrl (u : Url) : ScriptLink :=
  { base := u.withoutQuery }

/-- A pair for a value that is known and not empty. -/
def pairOf (key : String) (value : Option String) : List (String × String) :=
  (value.filter (!·.isEmpty)).toList.map fun v => (key, v)

/-- The query: the tag of the protocol and the script, then what is known of the client. -/
def pairs (phase : Phase) (client : Client) (plugin : Option String) : List (String × String) :=
  [("v", "0"), ("script", phase.toString)] ++
    client.architecture.toList.map (fun arch => ("arch", arch)) ++
    pairOf "distro" (some client.distro) ++
    pairOf "plugin" plugin ++
    client.node.toList.map (fun node => ("node", node))

/-- The URL of a phase's script. -/
def url (link : ScriptLink) (phase : Phase) (client : Client) (plugin : Option String) : Url :=
  link.base.withPairs (pairs phase client plugin)

/-- The file in which the script lands. -/
def fileName (phase : Phase) : String :=
  "preseed_" ++ phase.toString ++ ".sh"

/-- What is done before the script is fetched: inside an installer with a mounted target it runs in the
target, elsewhere where it is. -/
def lineStart (phase : Phase) : String :=
  "if [ -f /var/lib/preseed/log -a -d /target ]; then echo \"Preseed environment detected\"; " ++
    "DEST=/target/tmp/" ++ fileName phase ++ "; SH=\"chroot /target /bin/sh\"; " ++
    "else echo \"Non-Preseed environment detected\"; " ++
    "DEST=/tmp/" ++ fileName phase ++ "; SH=\"/bin/sh\"; fi; " ++
    "arch=\x60uname -m\x60; wget -q -O $DEST "

def lineEnd (phase : Phase) : String :=
  "; $SH /tmp/" ++ fileName phase

/-- The shell line that fetches and runs a phase's script. -/
def commandLine (link : ScriptLink) (phase : Phase) (client : Client) (plugin : Option String) :
    String :=
  lineStart phase ++ Shell.quote (link.url phase client plugin).toString ++ lineEnd phase

end ScriptLink

end Preseed

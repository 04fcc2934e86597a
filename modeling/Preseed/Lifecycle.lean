import Preseed.Client.Link
import Preseed.Plugin.Load

/-!
# The run of a request

A run writes the fixed frame of the answer and calls the plugins in it: all of them for the set-up, then
for the hook of the mode, then for the tear-down. The first call that fails ends the run, and what was
written up to then stays.
-/

namespace Preseed

/-- Where a run stands: the plugins in their present states, the output, the calls made so far, how often
they closed the session, and the failure that ended it. -/
structure Run (σ : Type) where
  plugins : List (LoadedPlugin σ)
  output : Output := {}
  /-- The plugins' names and hooks in the order of the calls. -/
  calls : List (String × Hook) := []
  closes : Nat := 0
  failure : Option PluginError := none

/-- What a run is made for. -/
structure Lifecycle where
  mode : Mode
  client : Client
  link : ScriptLink
  /-- The plugin filter that the links to the scripts carry. -/
  pluginFilter : Option String := none

/-- A shell function for fetching files, which every script may use. -/
def downloadHelper : List String :=
  ["download_file() \x7b",
    "URL=\"$1\"",
    "DEST=\"$2\"",
    "if [ ! -z \"$URL\" -a ! -z \"$DEST\" ]; then",
    "    wget -q -O $DEST \"$URL\" 2>&1",
    "    RES=$?",
    "else",
    "    RES=1",
    "fi",
    "return $RES",
    "\x7d"]

namespace Run

variable {σ : Type}

/-- Writes to the output, unless the run has ended. -/
def write (r : Run σ) (f : Output → Output) : Run σ :=
  match r.failure with
  | some _ => r
  | none => { r with output := f r.output }

/-- Calls a hook of one plugin after another; the first failure ends it. -/
def callEach (hook : Hook) (output : Output) :
    List (LoadedPlugin σ) → Run σ
  | [] => { plugins := [], output }
  | p :: rest =>
    let reply := p.plugin.call hook output p.plugin.state
    let p' := { p with plugin := { p.plugin with state := reply.state } }
    let output := output.append reply.lines
    match reply.failure with
    | some e =>
      { plugins := p' :: rest, output, calls := [(p.name, hook)], closes := reply.closes
        failure := some (.hook p.name hook e) }
    | none =>
      let r := callEach hook output rest
      { r with
        plugins := p' :: r.plugins
        calls := (p.name, hook) :: r.calls
        closes := reply.closes + r.closes }

/-- Calls a hook of all plugins, unless the run has ended. -/
def call (r : Run σ) (hook : Hook) : Run σ :=
  match r.failure with
  | some _ => r
  | none =>
    let next := callEach hook r.output r.plugins
    { next with calls := r.calls ++ next.calls, closes := r.closes + next.closes }

end Run

namespace Lifecycle

variable {σ : Type}

def command (l : Lifecycle) (phase : Phase) : String :=
  l.link.commandLine phase l.client l.pluginFilter

/-- What precedes everything else in the script of a phase. -/
def preamble (l : Lifecycle) (phase : Phase) (out : Output) : Output :=
  let out := (out.line "#").comment ("Generate " ++ phase.toString ++ " script")
  let out := (((out.comment "manual execute:").comment (l.command phase)).line "#").blank
  let out := ((out.line "#").comment "helper functions").line "#"
  (out.append downloadHelper).blank

/-- The head of an answer of the mode. -/
def opening (l : Lifecycle) (out : Output) : Output :=
  match l.mode with
  | .preseed => out
  | .script phase => l.preamble phase (out.line "#!/bin/bash")
  | .unknownScript _ => out.line "#!/bin/bash"

def names (plugins : List (LoadedPlugin σ)) (out : Output) : Output :=
  plugins.foldl (fun out p => out.comment ("Plugin " ++ p.name)) out

/-- Whom the answer is for. -/
def title (l : Lifecycle) (out : Output) : Output :=
  let c := l.client
  (((out.line "#").comment ("Preseed installer for machine " ++ c.name ++ " (" ++ c.ip.toString ++
    ", " ++ c.hardwareAddress ++ ", " ++ c.distro ++ ")")).line "#").blank

/-- The part of the answer that the mode asks for. -/
def body (l : Lifecycle) (r : Run σ) : Run σ :=
  match l.mode with
  | .preseed =>
    let r := r.write fun out =>
      (((out.directive (Directive.string "preseed/early_command" (l.command .early))).directive
        (Directive.string "preseed/late_command" (l.command .late))).blank).banner "Perform preseed"
    r.call .preseed
  | .script phase =>
    let r := r.write fun out =>
      (out.banner ("Perform " ++ phase.toString ++ " script")).line
        ("echo \"Running " ++ phase.toString ++ " script\"")
    (r.call (Hook.ofPhase phase)).write fun out =>
      (out.line ("echo \"Finished " ++ phase.toString ++ " script\"")).blank
  | .unknownScript raw =>
    r.write fun out => (out.comment ("Unsupported script phase: " ++ raw)).blank

/-- Runs the plugins and writes the answer behind what the output holds. -/
def run (l : Lifecycle) (plugins : List (LoadedPlugin σ)) (out : Output) : Run σ :=
  let start := (l.title (names plugins (l.opening out))).banner "Initialize Plugins"
  let r := ({ plugins, output := start : Run σ }).call .setUp
  let r := ((l.body r).write (·.banner "Deinitialize Plugins")).call .tearDown
  r.write fun out => ((out.line "#").comment "EOF").line "#"

end Lifecycle

end Preseed

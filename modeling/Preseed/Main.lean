import Preseed.Cli.Render

/-!
# The program

Copies what a run may need from the machine, asks for what it cannot find out by itself, runs the command
line on that, and prints the outcome.
-/

namespace Preseed.Machine

/-- Copies a file that can be read. -/
def copyFile (files : FileTree) (path : String) : IO FileTree := do
  match ← (IO.FS.readBinFile path).toBaseIO with
  | .ok content => pure (files.add path (.file content.toList))
  | .error _ => pure files

/-- Copies a directory that can be listed, with its files. -/
def copyDirectory (files : FileTree) (path : String) : IO FileTree := do
  match ← (do (← IO.FS.realPath path).readDir : IO _).toBaseIO with
  | .error _ => copyFile files path
  | .ok items =>
    let mut files := files.add path .directory
    for item in items do
      let below := FileTree.join path item.fileName
      if ← item.path.isDir then files := files.add below .directory
      else files ← copyFile files below
    pure files

/-- The variables of the environment. -/
def environment : IO (List (String × String)) := do
  let content ← IO.FS.readBinFile "/proc/self/environ"
  let assignments := Split.pieces '\x00' (Utf8.toStringLossy content.toList).toList
  pure (assignments.filterMap fun text =>
    (Split.cut? '=' text).map fun (name, value) => (String.ofList name, String.ofList value))

/-- The host as far as it is known before anything is read or asked: no name service, no commands, and no
server that could be connected to. -/
def bareHost (environment : List (String × String)) : Cli.Host where
  environment
  yaml := Yaml.Document.ofText?
  lookUp _ := none
  command _ _ _ := none
  ldap :=
    { connect := fun _ => .error (.other "no connection to directory servers")
      bind := fun _ _ => .ok ()
      directory := {} }

/-- Copies what a run with these options reads. -/
def filesFor (o : Cli.Options) (host : Cli.Host) : IO FileTree := do
  let mut files : FileTree := {}
  for path in o.settingsPaths do
    files ← copyFile files path
  match o.settings { host with files } with
  | .error _ => pure files
  | .ok s => copyFile (← copyDirectory files s.plugins.directory) s.resolver.arpTable

/-- Asks whoever runs the program; an empty line is no answer. -/
def ask (question : String) : IO (Option String) := do
  IO.eprint (question ++ ": ")
  let answer := String.ofList (Blank.trim (← (← IO.getStdin).getLine).toList)
  pure (if answer.isEmpty then none else some answer)

/-- The host with its answers about the client of a run, as far as the run needs them. -/
def askFor (o : Cli.Options) (host : Cli.Host) : IO Cli.Host := do
  match o.settings host with
  | .error _ => pure host
  | .ok s =>
    if o.name.isSome || o.hardwareAddress.isSome then pure host
    else
      let ip := o.clientIp.toString
      let name ← if s.resolver.reverseDns then ask ("Name of " ++ ip) else pure none
      let arp := " ".intercalate (s.resolver.arpCommand :: Resolver.arpArguments o.clientIp)
      let listed := (Resolver.neighbour s.resolver host.files (fun _ => none) o.clientIp).isSome
      let output ←
        if s.resolver.arp && !o.clientIp.isLoopback && !listed then ask ("Output of " ++ arp)
        else pure none
      pure { host with lookUp := fun _ => name, command := fun _ _ _ => output.map Utf8.ofString }

end Preseed.Machine

def main (arguments : List String) : IO UInt32 := do
  let bare := Preseed.Machine.bareHost (← Preseed.Machine.environment)
  let host ← match Preseed.Cli.Options.ofArguments arguments bare.environment with
    | .ok o => Preseed.Machine.askFor o { bare with files := ← Preseed.Machine.filesFor o bare }
    | .error _ => pure bare
  let outcome := Preseed.Cli.run host arguments
  IO.print outcome.stdout
  IO.eprint outcome.stderr
  pure outcome.exitCode.toUInt32

import Preseed.Files.Basic
import Preseed.Net.Hardware
import Preseed.Settings.Basic

/-!
# Resolving clients

What is found out about a client from its address. An unknown fact never fails a request.
-/

namespace Preseed

structure Resolver where
  reverseName : Net.Address → Option String
  hardwareAddress : Net.Address → Option String

namespace Resolver

/-- Answers from a list; of two answers for one address the later counts. -/
def answer (known : List (Net.Address × String)) (ip : Net.Address) : Option String :=
  known.reverse.lookup ip

/-- A resolver with the given answers and no others. -/
def ofAnswers (names hardware : List (Net.Address × String)) : Resolver where
  reverseName := answer names
  hardwareAddress := answer hardware

/-- What the command that lists neighbours is asked about an address. -/
def arpArguments (ip : Net.Address) : List String :=
  ["-a", "-n", ip.toString]

/-- The hardware address in the kernel's table, or else in the output of a command. A host does not list
itself. -/
def neighbour (settings : ResolverSettings) (files : FileTree)
    (command : List String → Option String) (ip : Net.Address) : Option String :=
  if !settings.arp || ip.isLoopback then none
  else
    let listed := (files.read settings.arpTable).toOption.bind fun table =>
      Net.Hardware.ofTable? table ip
    match listed with
    | some found => some found
    | none => (command (arpArguments ip)).bind Net.Hardware.find?

/-- The name that a name service has for an address, without points at its end. A service that has none may
give the address itself. -/
def knownName (settings : ResolverSettings) (lookUp : Net.Address → Option String)
    (ip : Net.Address) : Option String :=
  if settings.reverseDns then
    (lookUp ip).bind fun name =>
      if name = ip.toString then none
      else some (String.ofList (name.toList.reverse.dropWhile (· == '.')).reverse)
  else none

/-- The resolver of a host with a name service. Commands are run with arguments for at most so many seconds,
and give the bytes that they write. -/
def ofHost (settings : ResolverSettings) (files : FileTree) (lookUp : Net.Address → Option String)
    (command : String → List String → Nat → Option Bytes) : Resolver where
  reverseName := knownName settings lookUp
  hardwareAddress := neighbour settings files fun arguments =>
    (command settings.arpCommand arguments settings.arpTimeoutSeconds).map Utf8.toStringLossy

end Resolver

end Preseed

import Preseed.Client.Params
import Preseed.Net.Address

/-!
# Clients

The facts about a requesting host, the builder that collects them, and the placeholders that stand for
them in templates.
-/

namespace Preseed

/-- The class that every client belongs to. -/
def defaultClass : String := "default"

/-- The first label of a name; an IP address is returned whole. -/
def deriveHostname (name : String) : String :=
  if (Net.Address.ofString? name).isSome then name
  else String.ofList (name.toList.takeWhile (· ≠ '.'))

/-- The facts about a host, fixed for one request. -/
structure Client where
  ip : Net.Address
  /-- The name of the address, or the address itself. -/
  reverseName : String
  /-- The name in force: the requested one or the reverse name. -/
  name : String
  derivedHostname : String
  /-- Empty when unknown. -/
  hardwareAddress : String
  /-- In the order in which they were found; repetitions stay. -/
  classes : List String
  architecture : Option String
  distro : String
  node : Option String
  deriving DecidableEq, Repr

namespace Client

def hasClass (client : Client) (name : String) : Bool :=
  client.classes.contains name

/-- What follows the first dot of the reverse name, unless that is an IP address or nothing follows. -/
def domain (client : Client) : Option String :=
  if (Net.Address.ofString? client.reverseName).isSome then none
  else
    match Split.cut? '.' client.reverseName.toList with
    | some (_, []) => none
    | some (_, after) => some (String.ofList after)
    | none => none

/-- The value of a placeholder; an unknown fact is empty. -/
def placeholder? (client : Client) (key : String) : Option String :=
  match key with
  | "name" => some client.name
  | "hostname" => some client.derivedHostname
  | "domain" => some (client.domain.getD "")
  | "ip" => some client.ip.toString
  | "hwaddr" => some client.hardwareAddress
  | "arch" => some (client.architecture.getD "")
  | "distro" => some client.distro
  | "node" => some (client.node.getD "")
  | _ => none

end Client

namespace Template

/-- Replaces every placeholder: the text from an opening brace to the next closing brace, when that text
has a value. Any other opening brace is kept, and replaced text is not looked at again. -/
def expand (value? : List Char → Option (List Char)) : List Char → List Char
  | [] => []
  | c :: rest =>
    if c = '\x7b' then
      match _h : Split.cut? '\x7d' rest with
      | some (key, after) =>
        match value? key with
        | some value => value ++ expand value? after
        | none => c :: expand value? rest
      | none => c :: expand value? rest
    else c :: expand value? rest
termination_by cs => cs.length
decreasing_by
  · have := Split.length_lt_of_cut? _h
    simp only [List.length_cons]
    omega
  all_goals simp

end Template

namespace Client

/-- The template with the placeholders of the client's facts replaced. -/
def expand (client : Client) (template : String) : String :=
  String.ofList (Template.expand
    (fun key => (client.placeholder? (String.ofList key)).map String.toList) template.toList)

/-- Collects the facts of a client. Classes come in the order of the steps. -/
structure Builder where
  ip : Net.Address
  reverseName : Option String := none
  clientOverride : Option String := none
  hardwareAddress : String := ""
  classes : List String := [defaultClass]
  architecture : Option String := none
  distro : String := ""
  node : Option String := none
  deriving DecidableEq, Repr

namespace Builder

def ofAddress (ip : Net.Address) : Builder :=
  { ip }

/-- Sets the name of the address; an empty or unsafe name counts as none. -/
def withReverseName (b : Builder) (name : Option String) : Builder :=
  { b with reverseName := name.filter fun n => !n.isEmpty && isSafe n }

def withHardwareAddress (b : Builder) (address : Option String) : Builder :=
  { b with hardwareAddress := address.getD "" }

/-- Takes over what the parameters give; the node comes after the classes. -/
def applyParams (b : Builder) (params : Params) : Builder :=
  { b with
    clientOverride := params.client <|> b.clientOverride
    classes := b.classes ++ params.classes ++ params.node.toList
    node := params.node <|> b.node
    architecture := params.arch <|> b.architecture
    distro := params.distro.getD b.distro }

def extendClasses (b : Builder) (classes : List String) : Builder :=
  { b with classes := b.classes ++ classes }

def resolvedReverseName (b : Builder) : String :=
  b.reverseName.getD b.ip.toString

/-- The name under which the directory knows the client. -/
def lookupName (b : Builder) : String :=
  b.clientOverride.getD b.resolvedReverseName

def build (b : Builder) : Client where
  ip := b.ip
  reverseName := b.resolvedReverseName
  name := b.clientOverride.getD b.resolvedReverseName
  derivedHostname := deriveHostname b.resolvedReverseName
  hardwareAddress := b.hardwareAddress
  classes := b.classes
  architecture := b.architecture
  distro := b.distro
  node := b.node

end Builder

def builder (ip : Net.Address) : Builder :=
  Builder.ofAddress ip

end Client

end Preseed

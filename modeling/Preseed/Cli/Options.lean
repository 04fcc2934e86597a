import Preseed.Net.Address
import Preseed.Net.Url.Parser

/-!
# Command line options

The options of the command line and how they are read: `--name value`, `--name=value`, `-n value` or
`-nvalue`. An option stands at most once, and nothing else may stand beside the options.
-/

namespace Preseed.Cli

/-- What the command line asks for. -/
structure Options where
  /-- The settings' file; none for the one that the environment or else the program names. -/
  config : Option String := none
  ip : Option Net.Address := none
  query : Option String := none
  /-- The client's name and hardware address, in the place of a look-up. -/
  name : Option String := none
  hardwareAddress : Option String := none
  baseUrl : Option Url := none
  /-- Whether to do without the directory. -/
  offline : Bool := false
  logLevel : Option String := none
  deriving DecidableEq

/-- The options by what they are for. -/
inductive Switch where
  | config
  | ip
  | query
  | name
  | hardwareAddress
  | baseUrl
  | offline
  | logLevel
  | help
  | version
  deriving DecidableEq, Repr

inductive UsageError where
  | unknownOption (name : String)
  | unexpectedArgument (text : String)
  | missingValue (switch : Switch)
  | unexpectedValue (switch : Switch)
  | invalidValue (switch : Switch) (text : String)
  | repeated (switch : Switch)
  deriving DecidableEq, Repr

/-- Why the command line gives no options. -/
inductive Stop where
  | help
  | version
  | usage (error : UsageError)
  deriving DecidableEq, Repr

namespace Switch

def all : List Switch :=
  [config, ip, query, name, hardwareAddress, baseUrl, offline, logLevel, help, version]

def long : Switch → String
  | config => "config"
  | ip => "ip"
  | query => "query"
  | name => "name"
  | hardwareAddress => "hwaddr"
  | baseUrl => "base-url"
  | offline => "offline"
  | logLevel => "log-level"
  | help => "help"
  | version => "version"

def short? : Switch → Option Char
  | config => some 'c'
  | query => some 'q'
  | help => some 'h'
  | version => some 'V'
  | _ => none

/-- What the help calls the option's value, if it has one. -/
def value? : Switch → Option String
  | config => some "CONFIG"
  | ip => some "IP"
  | query => some "QUERY"
  | name => some "NAME"
  | hardwareAddress => some "HWADDR"
  | baseUrl => some "BASE_URL"
  | logLevel => some "LOG_LEVEL"
  | offline => none
  | help => none
  | version => none

def ofLong? (name : List Char) : Option Switch :=
  all.find? fun s => s.long.toList == name

def ofShort? (c : Char) : Option Switch :=
  all.find? fun s => s.short? == some c

end Switch

namespace UsageError

protected def toString : UsageError → String
  | unknownOption name => "unexpected argument '" ++ name ++ "' found"
  | unexpectedArgument text => "unexpected argument '" ++ text ++ "' found"
  | missingValue s => "a value is required for '--" ++ s.long ++ "' but none was supplied"
  | unexpectedValue s => "unexpected value for '--" ++ s.long ++ "' found"
  | invalidValue s text => "invalid value '" ++ text ++ "' for '--" ++ s.long ++ "'"
  | repeated s => "the argument '--" ++ s.long ++ "' cannot be used multiple times"

end UsageError

/-- A value that must not be missing. -/
def required {α : Type} (s : Switch) (text : String) (value : Option α) : Except Stop α :=
  match value with
  | some a => .ok a
  | none => .error (.usage (.invalidValue s text))

namespace Options

/-- Takes over the value of an option. -/
def set (o : Options) (s : Switch) (text : String) : Except Stop Options :=
  let repeated : Stop := .usage (.repeated s)
  match s with
  | .config =>
    if o.config.isSome then .error repeated
    else if text.isEmpty then .error (.usage (.missingValue s))
    else .ok { o with config := some text }
  | .ip => do
    let ip ← required s text (Net.Address.ofString? text)
    if o.ip.isSome then .error repeated else .ok { o with ip := some ip }
  | .query => if o.query.isSome then .error repeated else .ok { o with query := some text }
  | .name => if o.name.isSome then .error repeated else .ok { o with name := some text }
  | .hardwareAddress =>
    if o.hardwareAddress.isSome then .error repeated
    else .ok { o with hardwareAddress := some text }
  | .baseUrl => do
    let u ← required s text (Url.parse text).toOption
    if o.baseUrl.isSome then .error repeated else .ok { o with baseUrl := some u }
  | .logLevel =>
    if o.logLevel.isSome then .error repeated else .ok { o with logLevel := some text }
  | .offline | .help | .version => .error (.usage (.unexpectedValue s))

/-- Takes over an option without value. -/
def turnOn (o : Options) (s : Switch) : Except Stop Options :=
  match s with
  | .help => .error .help
  | .version => .error .version
  | .offline =>
    if o.offline then .error (.usage (.repeated s)) else .ok { o with offline := true }
  | _ => .error (.usage (.missingValue s))

end Options

/-- Whether an argument is not a value: it begins with a hyphen and is longer than that. -/
def isSwitch (argument : String) : Bool :=
  match argument.toList with
  | '-' :: _ :: _ => true
  | _ => false

/-- The option that an argument names, with the value in the same argument. -/
def switch? (argument : String) : Except Stop (Switch × Option String) :=
  match argument.toList with
  | '-' :: '-' :: body =>
    let (name, value) := match Split.cut? '=' body with
      | some (name, value) => (name, some (String.ofList value))
      | none => (body, none)
    match Switch.ofLong? name with
    | some s => .ok (s, value)
    | none => .error (.usage (.unknownOption argument))
  | '-' :: c :: tail =>
    match Switch.ofShort? c with
    | none => .error (.usage (.unknownOption argument))
    | some s =>
      if s.value?.isNone then .ok (s, none)
      else
        match tail with
        | [] => .ok (s, none)
        | '=' :: value => .ok (s, some (String.ofList value))
        | value => .ok (s, some (String.ofList value))
  | _ => .error (.usage (.unexpectedArgument argument))

/-- Reads the arguments one after the other. -/
def Options.read (o : Options) : List String → Except Stop Options
  | [] => .ok o
  | argument :: rest =>
    if argument = "--" then
      match rest with
      | [] => .ok o
      | text :: _ => .error (.usage (.unexpectedArgument text))
    else
      match switch? argument with
      | .error e => .error e
      | .ok (s, some value) => do
        let o ← o.set s value
        o.read rest
      | .ok (s, none) =>
        if s.value?.isNone then do
          let o ← o.turnOn s
          o.read rest
        else
          match rest with
          | [] => .error (.usage (.missingValue s))
          | value :: rest =>
            if isSwitch value then .error (.usage (.missingValue s))
            else do
              let o ← o.set s value
              o.read rest

/-- The variable that may name the settings' file. -/
def configVariable : String := "NETPRESEED_CONFIG"

/-- The last value of a variable. -/
def lookupVariable (environment : List (String × String)) (name : String) : Option String :=
  environment.reverse.lookup name

/-- The options of a command line; the environment may name the settings' file. -/
def Options.ofArguments (arguments : List String) (environment : List (String × String)) :
    Except Stop Options := do
  let o ← Options.read {} arguments
  match o.config, lookupVariable environment configVariable with
  | none, some path => o.set .config path
  | _, _ => pure o

end Preseed.Cli

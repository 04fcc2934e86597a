import Preseed.Net.Domain
import Preseed.Net.Url.Basic

/-!
# Reading URLs

A URL that stands on its own is read as browsers read it: control characters and spaces around it and
line breaks in it are dropped, schemes of the web have forgiving rules for slashes and hosts, dots in the
path are resolved, and what may not stand in a part is percent-encoded.
-/

namespace Preseed.Url

/-- The kinds of schemes: their rules for slashes and hosts differ. -/
inductive SchemeKind where
  | file
  /-- A scheme of the web, with the port that it implies. -/
  | web (port : Nat)
  | other
  deriving DecidableEq, Repr

def SchemeKind.of (scheme : String) : SchemeKind :=
  match scheme with
  | "http" | "ws" => .web 80
  | "https" | "wss" => .web 443
  | "ftp" => .web 21
  | "file" => .file
  | _ => .other

def SchemeKind.isSpecial : SchemeKind → Bool
  | .other => false
  | _ => true

/-! ## Characters that are encoded in each part -/

def isControl (c : Char) : Bool :=
  c.toNat < 0x20 || c.toNat == 0x7F

def inFragment (c : Char) : Bool :=
  isControl c || c ∈ [' ', '"', '<', '>', '\x60']

def inPath (c : Char) : Bool :=
  inFragment c || c ∈ ['#', '?', '\x7b', '\x7d']

def inUserinfo (c : Char) : Bool :=
  inPath c || c ∈ ['/', ':', ';', '=', '@', '[', '\\', ']', '^', '|']

def inQuery (c : Char) : Bool :=
  isControl c || c ∈ [' ', '"', '#', '<', '>']

def inWebQuery (c : Char) : Bool :=
  inQuery c || c == '\''

def encoded (set : Char → Bool) (cs : List Char) : String :=
  String.ofList (Percent.encode set cs)

/-! ## Parts -/

/-- The text without control characters and spaces around it, tabs and line breaks. -/
def clean (cs : List Char) : List Char :=
  let isEdge (c : Char) : Bool := c.toNat ≤ 0x20
  let inner := ((cs.dropWhile isEdge).reverse.dropWhile isEdge).reverse
  inner.filter fun c => c != '\t' && c != '\n' && c != '\r'

/-- The scheme in small letters and what follows its colon. -/
def scheme? (cs : List Char) : Option (String × List Char) :=
  match cs.head?, Split.cut? ':' cs with
  | some first, some (name, rest) =>
    if Ascii.isLetter first &&
        name.all (fun c => Ascii.isAlphanumeric c || c == '+' || c == '-' || c == '.') then
      some (Ascii.lower (String.ofList name), rest)
    else none
  | _, _ => none

/-- A text and, behind the first separator, the rest. -/
def cut (sep : Char) (cs : List Char) : List Char × Option (List Char) :=
  match Split.cut? sep cs with
  | some (before, after) => (before, some after)
  | none => (cs, none)

def isSlash (special : Bool) (c : Char) : Bool :=
  c == '/' || (special && c == '\\')

/-- Decimal, octal behind a zero, or hexadecimal behind `0x`; a bare `0x` is zero. -/
def ipv4Number? (cs : List Char) : Option Nat :=
  match cs with
  | [] => none
  | '0' :: 'x' :: rest | '0' :: 'X' :: rest => Ascii.number? 16 rest
  | '0' :: d :: rest => Ascii.number? 8 (d :: rest)
  | cs => Ascii.number? 10 cs

/-- Whether the last label of a name, a final dot apart, is a number: the name is an address then. -/
def endsInNumber (cs : List Char) : Bool :=
  let last := match (Split.pieces '.' cs).reverse with
    | [] :: label :: _ => label
    | label :: _ => label
    | [] => []
  (!last.isEmpty && last.all Ascii.isDigit) || (ipv4Number? last).isSome

/-- An address of one to four numbers: the last of them fills the bytes that are left. -/
def ipv4? (cs : List Char) : Option Net.IPv4 := do
  let parts := Split.pieces '.' cs
  let parts := if parts.getLast? == some [] then parts.dropLast else parts
  let numbers ← parts.mapM ipv4Number?
  match numbers.reverse with
  | [] => none
  | last :: front =>
    let bytes := front.reverse
    if bytes.length > 3 || bytes.any (· > 255) || last ≥ Nat.pow 256 (4 - bytes.length) then none
    else
      let high := bytes.foldl (fun acc b => acc * 256 + b) 0
      some (Net.IPv4.ofNat (high * Nat.pow 256 (4 - bytes.length) + last))

/-- The inside of brackets, if the text begins with one. -/
def bracketed? (cs : List Char) : Option (Except UrlError Host) :=
  match cs with
  | '[' :: rest =>
    some (if rest.getLast? == some ']' then
      match Net.IPv6.ofChars? rest.dropLast with
      | some address => .ok (.v6 address)
      | none => .error .invalidIPv6
    else .error .invalidIPv6)
  | _ => none

/-- A host of a special scheme: an address or a domain. -/
def webHost (cs : List Char) : Except UrlError Host :=
  match bracketed? cs with
  | some host => host
  | none =>
    match Domain.toAscii? (Percent.decode (Utf8.encode cs)) with
    | none => .error .invalidDomain
    | some [] => .error .emptyHost
    | some domain =>
      if endsInNumber domain then
        match ipv4? domain with
        | some address => .ok (.v4 address)
        | none => .error .invalidIPv4
      else .ok (.name (String.ofList domain))

/-- Characters that stand in no host. -/
def isForbiddenInHost (c : Char) : Bool :=
  c ∈ ['\x00', '\t', '\n', '\r', ' ', '#', '/', ':', '<', '>', '?', '@', '[', '\\', ']', '^', '|']

/-- A host that nothing interprets. -/
def otherHost (cs : List Char) : Except UrlError Host :=
  match bracketed? cs with
  | some host => host
  | none =>
    if cs.any isForbiddenInHost then .error .invalidDomainCharacter
    else .ok (.name (encoded isControl cs))

/-- The host and what follows it: a colon inside brackets belongs to the host. -/
def cutHost (inside : Bool) : List Char → List Char × List Char
  | [] => ([], [])
  | c :: rest =>
    if c == ':' && !inside then ([], c :: rest)
    else
      let inside := if c == '[' then true else if c == ']' then false else inside
      let (host, after) := cutHost inside rest
      (c :: host, after)

/-- The digits behind a host's colon; none for no digits and for the port that the scheme implies. A
backslash ends them. -/
def readPort (kind : SchemeKind) (cs : List Char) : Except UrlError (Option Nat × List Char) :=
  let digits := cs.takeWhile Ascii.isDigit
  let rest := cs.dropWhile Ascii.isDigit
  match Ascii.number? 10 digits with
  | none => .error .invalidPort
  | some n =>
    if n > 65535 then .error .invalidPort
    else if rest.head?.any (· != '\\') then .error .invalidPort
    else if digits.isEmpty || kind = .web n then .ok (none, rest)
    else .ok (some n, rest)

/-- An authority, and what of the path the port left over. -/
structure Authority where
  username : String
  password : String
  host : Host
  port : Option Nat
  rest : List Char

/-- The text before the last `@` and after it. -/
def cutUser (cs : List Char) : Option (List Char × List Char) :=
  match cut '@' cs.reverse with
  | (after, some before) => some (before.reverse, after.reverse)
  | (_, none) => none

/-- Reads an authority; `isLast` tells that the text ends with it. -/
def authority? (kind : SchemeKind) (isLast : Bool) (cs : List Char) : Except UrlError Authority := do
  let (user, address) := (cutUser cs).getD ([], cs)
  if cs.head? == some '@' && user.isEmpty && address.isEmpty && !isLast then throw .emptyHost
  let (name, password) := cut ':' user
  let username := encoded inUserinfo name
  let password := encoded inUserinfo (password.getD [])
  let (hostText, after) := cutHost false address
  if kind.isSpecial && hostText.isEmpty then throw .emptyHost
  let host ← if kind.isSpecial then webHost hostText else otherHost hostText
  let hasUser := !username.isEmpty || !password.isEmpty
  if host.isEmpty && (!after.isEmpty || hasUser) then throw .emptyHost
  let (number, rest) ← match after with
    | ':' :: digits => readPort kind digits
    | rest => pure (none, rest)
  pure { username, password, host, port := number, rest }

/-! ## Paths -/

def isDot (segment : String) : Bool :=
  Ascii.lower segment ∈ [".", "%2e"]

def isDoubleDot (segment : String) : Bool :=
  Ascii.lower segment ∈ ["..", ".%2e", "%2e.", "%2e%2e"]

/-- A letter and a colon or a bar, which name a drive. -/
def isDrive (cs : List Char) : Bool :=
  match cs with
  | [letter, c] => Ascii.isLetter letter && (c == ':' || c == '|')
  | _ => false

/-- Resolves the dots among segments; `above` holds those before, the last first. A dot at the end leaves
an empty segment, and a drive at the front of a file's path stays. -/
def resolve (file : Bool) (above : List String) : List String → List String
  | [] => above.reverse
  | segment :: rest =>
    if isDoubleDot segment then
      let kept := match above with
        | [drive] => if file && isDrive drive.toList then [drive] else []
        | _ :: kept => kept
        | [] => []
      resolve file (if rest.isEmpty then "" :: kept else kept) rest
    else if isDot segment then resolve file (if rest.isEmpty then "" :: above else above) rest
    else
      let segment := match above, segment.toList with
        | [], [letter, '|'] =>
          if file && Ascii.isLetter letter then String.ofList [letter, ':'] else segment
        | _, _ => segment
      resolve file (segment :: above) rest

/-- The texts between slashes. -/
def pieces (special : Bool) : List Char → List (List Char)
  | [] => [[]]
  | c :: rest =>
    if isSlash special c then [] :: pieces special rest
    else
      match pieces special rest with
      | piece :: more => (c :: piece) :: more
      | [] => [[c]]

/-- The segments of a path whose first slash, if any, is gone. -/
def segments (kind : SchemeKind) (cs : List Char) : List String :=
  resolve (kind = .file) [] ((pieces kind.isSpecial cs).map (encoded inPath))

/-- A path of a special scheme or of a URL with an authority. -/
def pathOf (kind : SchemeKind) (cs : List Char) : UrlPath :=
  match cs with
  | [] => if kind.isSpecial then .segments [""] else .segments []
  | c :: rest => .segments (segments kind (if isSlash kind.isSpecial c then rest else c :: rest))

/-- A file's path begins with no empty segment, unless that is all. -/
def filePath (cs : List Char) : UrlPath :=
  match pathOf .file (cs.dropWhile (isSlash true)) with
  | .segments names =>
    match names.dropWhile (·.isEmpty) with
    | [] => .segments [""]
    | names => .segments names
  | path => path

/-! ## Whole URLs -/

def fileUrl (cs : List Char) : Except UrlError (Option Host × UrlPath) :=
  match cs with
  | a :: b :: rest =>
    if isSlash true a && isSlash true b then do
      let text := rest.takeWhile (!isSlash true ·)
      let after := rest.dropWhile (!isSlash true ·)
      if text.isEmpty || isDrive text then pure (some (.name ""), filePath rest)
      else
        let host ← webHost text
        let host := if host = .name "localhost" then Host.name "" else host
        pure (some host, filePath after)
    else pure (some (.name ""), filePath cs)
  | cs => pure (some (.name ""), filePath cs)

def withAuthority (scheme : String) (kind : SchemeKind) (isLast : Bool) (cs : List Char) :
    Except UrlError Url := do
  let text := cs.takeWhile (!isSlash kind.isSpecial ·)
  let path := cs.dropWhile (!isSlash kind.isSpecial ·)
  let a ← authority? kind (isLast && path.isEmpty) text
  pure
    { scheme, username := a.username, password := a.password, host := some a.host, port := a.port
      path := pathOf kind (a.rest ++ path) }

/-- What stands between the scheme and the query. -/
def hierarchy (scheme : String) (isLast : Bool) (cs : List Char) : Except UrlError Url :=
  match SchemeKind.of scheme with
  | .file => do
    let (host, path) ← fileUrl cs
    pure { scheme, host, path }
  | .web p => withAuthority scheme (.web p) isLast (cs.dropWhile (isSlash true))
  | .other =>
    match cs with
    | '/' :: '/' :: rest => withAuthority scheme .other isLast rest
    | '/' :: rest => pure { scheme, path := .segments (segments .other rest) }
    | cs => pure { scheme, path := .opaqueText (encoded isControl cs) }

/-- Reads a URL that stands on its own. -/
def parse (text : String) : Except UrlError Url :=
  match scheme? (clean text.toList) with
  | none => .error .relative
  | some (scheme, rest) => do
    let (rest, fragment) := cut '#' rest
    let (rest, query) := cut '?' rest
    let u ← hierarchy scheme (fragment.isNone && query.isNone) rest
    let inQuery := if (SchemeKind.of scheme).isSpecial then inWebQuery else inQuery
    pure { u with
      query := query.map (encoded inQuery)
      fragment := fragment.map (encoded inFragment) }

end Preseed.Url

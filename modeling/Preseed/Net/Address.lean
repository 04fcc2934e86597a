import Preseed.Text.Ascii
import Preseed.Text.Split

/-!
# IP addresses

Addresses of both versions with their text: dotted decimal for version 4, and for version 6 eight
groups of which the first longest run of at least two zero groups is written `::`. A version 4 address
mapped into version 6 keeps its dotted form.
-/

namespace Preseed.Net

/-- A version 4 address. -/
structure IPv4 where
  a : UInt8
  b : UInt8
  c : UInt8
  d : UInt8
  deriving DecidableEq, Repr

/-- A version 6 address. -/
structure IPv6 where
  groups : List UInt16
  length_groups : groups.length = 8
  deriving DecidableEq, Repr

inductive Address where
  | v4 (address : IPv4)
  | v6 (address : IPv6)
  deriving DecidableEq, Repr

namespace IPv4

/-- A decimal number below 256 without leading zeros. -/
def octet? (cs : List Char) : Option UInt8 :=
  if cs.isEmpty || cs.length > 3 || !cs.all Ascii.isDigit then none
  else if cs.length > 1 && cs.head? == some '0' then none
  else
    match Ascii.number? 10 cs with
    | some n => if n < 256 then some (UInt8.ofNat n) else none
    | none => none

def ofChars? (cs : List Char) : Option IPv4 :=
  match Split.pieces '.' cs with
  | [a, b, c, d] => do
    pure ⟨← octet? a, ← octet? b, ← octet? c, ← octet? d⟩
  | _ => none

def toChars (x : IPv4) : List Char :=
  Nat.toDigits 10 x.a.toNat ++ '.' :: (Nat.toDigits 10 x.b.toNat ++ '.' ::
    (Nat.toDigits 10 x.c.toNat ++ '.' :: Nat.toDigits 10 x.d.toNat))

/-- The address as two groups of a version 6 address. -/
def groups (x : IPv4) : List UInt16 :=
  [UInt16.ofNat (x.a.toNat * 256 + x.b.toNat), UInt16.ofNat (x.c.toNat * 256 + x.d.toNat)]

def ofGroups (hi lo : UInt16) : IPv4 :=
  ⟨UInt8.ofNat (hi.toNat / 256), UInt8.ofNat (hi.toNat % 256),
    UInt8.ofNat (lo.toNat / 256), UInt8.ofNat (lo.toNat % 256)⟩

/-- The address as a 32-bit number. -/
def ofNat (n : Nat) : IPv4 :=
  ⟨UInt8.ofNat (n / 0x1000000), UInt8.ofNat (n / 0x10000), UInt8.ofNat (n / 0x100), UInt8.ofNat n⟩

end IPv4

namespace IPv6

/-- One to four hexadecimal digits. -/
def group? (cs : List Char) : Option UInt16 :=
  if cs.isEmpty || cs.length > 4 then none
  else (Ascii.number? 16 cs).map UInt16.ofNat

/-- The groups of one side of `::`, or of a whole address. With `dotted` the last piece may be a
version 4 address, which stands for two groups. -/
def groupsOf? (dotted : Bool) : List (List Char) → Option (List UInt16)
  | [] => some []
  | [last] =>
    match group? last with
    | some g => some [g]
    | none => if dotted then (IPv4.ofChars? last).map IPv4.groups else none
  | piece :: pieces => do
    let g ← group? piece
    let gs ← groupsOf? dotted pieces
    pure (g :: gs)

/-- The text before and after the first `::`. -/
def cutGap? : List Char → Option (List Char × List Char)
  | [] => none
  | [_] => none
  | c :: d :: rest =>
    if c = ':' ∧ d = ':' then some ([], rest)
    else (cutGap? (d :: rest)).map fun (before, after) => (c :: before, after)

def sideOf? (dotted : Bool) (cs : List Char) : Option (List UInt16) :=
  if cs.isEmpty then some [] else groupsOf? dotted (Split.pieces ':' cs)

def ofGroups? (groups : List UInt16) : Option IPv6 :=
  if h : groups.length = 8 then some ⟨groups, h⟩ else none

def ofChars? (cs : List Char) : Option IPv6 :=
  match cutGap? cs with
  | none => (groupsOf? true (Split.pieces ':' cs)).bind ofGroups?
  | some (before, after) => do
    let front ← sideOf? false before
    let back ← sideOf? true after
    if front.length + back.length ≤ 7 then
      ofGroups? (front ++ List.replicate (8 - (front.length + back.length)) 0 ++ back)
    else none

/-- Where the first longest run of zero groups starts, and its length. -/
def longestGap (groups : List UInt16) : Nat × Nat :=
  let rec go (i : Nat) (start len : Nat) (best : Nat × Nat) : List UInt16 → Nat × Nat
    | [] => best
    | g :: rest =>
      if g = 0 then
        let len' := len + 1
        let start' := if len = 0 then i else start
        go (i + 1) start' len' (if len' > best.2 then (start', len') else best) rest
      else go (i + 1) 0 0 best rest
  go 0 0 0 (0, 0) groups

def joinGroups (groups : List UInt16) : List Char :=
  [':'].intercalate (groups.map fun g => Ascii.hexText g.toNat)

/-- The text in hexadecimal groups only. -/
def toHexChars (x : IPv6) : List Char :=
  let gap := longestGap x.groups
  if gap.2 > 1 then
    joinGroups (x.groups.take gap.1) ++ ':' :: ':' :: joinGroups (x.groups.drop (gap.1 + gap.2))
  else joinGroups x.groups

/-- The version 4 address that is mapped to this address, if any. -/
def mapped? (x : IPv6) : Option IPv4 :=
  match x.groups with
  | [0, 0, 0, 0, 0, 0xFFFF, hi, lo] => some (IPv4.ofGroups hi lo)
  | _ => none

def toChars (x : IPv6) : List Char :=
  match x.mapped? with
  | some inner => "::ffff:".toList ++ inner.toChars
  | none => x.toHexChars

end IPv6

namespace Address

def ofChars? (cs : List Char) : Option Address :=
  match IPv4.ofChars? cs with
  | some x => some (.v4 x)
  | none => (IPv6.ofChars? cs).map .v6

def ofString? (s : String) : Option Address :=
  ofChars? s.toList

def toChars : Address → List Char
  | .v4 x => x.toChars
  | .v6 x => x.toChars

protected def toString (x : Address) : String :=
  String.ofList x.toChars

/-- The address without the mapping of version 4 into version 6. -/
def canonical : Address → Address
  | .v4 x => .v4 x
  | .v6 x =>
    match x.mapped? with
    | some inner => .v4 inner
    | none => .v6 x

def isLoopback : Address → Bool
  | .v4 x => x.a == 127
  | .v6 x => x.groups == [0, 0, 0, 0, 0, 0, 0, 1]

end Address

/-- An address with a port. -/
structure Endpoint where
  address : Address
  port : UInt16
  deriving DecidableEq, Repr

namespace Endpoint

/-- A decimal number of at least one digit that fits sixteen bits. -/
def port? (cs : List Char) : Option UInt16 :=
  if cs.isEmpty || !cs.all Ascii.isDigit then none
  else
    match Ascii.number? 10 cs with
    | some n => if n < 65536 then some (UInt16.ofNat n) else none
    | none => none

/-- A zone of a version 6 address: `%` and a number of 32 bits. -/
def isZone (cs : List Char) : Bool :=
  match cs with
  | [] => true
  | '%' :: digits =>
    !digits.isEmpty && digits.all Ascii.isDigit &&
      (match Ascii.number? 10 digits with
        | some n => n < 0x100000000
        | none => false)
  | _ => false

/-- Reads `1.2.3.4:80` or `[::1]:80`. -/
def ofString? (s : String) : Option Endpoint :=
  match s.toList with
  | '[' :: rest => do
    let (inner, after) ← Split.cut? ']' rest
    let address := inner.takeWhile (· ≠ '%')
    let x ← IPv6.ofChars? address
    if !isZone (inner.dropWhile (· ≠ '%')) then none
    match after with
    | ':' :: digits => (port? digits).map fun p => ⟨.v6 x, p⟩
    | _ => none
  | cs => do
    let (address, digits) ← Split.cut? ':' cs
    let x ← IPv4.ofChars? address
    (port? digits).map fun p => ⟨.v4 x, p⟩

end Endpoint

end Preseed.Net

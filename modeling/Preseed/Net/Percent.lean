import Preseed.Text.Ascii
import Preseed.Text.Utf8

/-!
# Percent encoding

A byte written as `%` and two hexadecimal digits. A `%` that two digits do not follow stands for itself.
-/

namespace Preseed.Percent

/-- `%` and two capital hexadecimal digits. -/
def encodeByte (b : UInt8) : List Char :=
  ['%', Ascii.upperHexDigit (b.toNat / 16), Ascii.upperHexDigit (b.toNat % 16)]

/-- A character as it is, or its bytes percent-encoded. Every character outside ASCII is encoded. -/
def encodeChar (encoded : Char → Bool) (c : Char) : List Char :=
  if c.toNat < 0x80 && !encoded c then [c] else (Utf8.encodeChar c).flatMap encodeByte

def encode (encoded : Char → Bool) (cs : List Char) : List Char :=
  cs.flatMap (encodeChar encoded)

def byteDigit? (b : UInt8) : Option Nat :=
  if b < 0x80 then Ascii.hexValue? (Char.ofNat b.toNat) else none

/-- The byte that `%` and the two bytes stand for. -/
def escape? (hi lo : UInt8) : Option UInt8 := do
  let h ← byteDigit? hi
  let l ← byteDigit? lo
  pure (UInt8.ofNat (16 * h + l))

def decode : Bytes → Bytes
  | [] => []
  | [b] => [b]
  | [b, b'] => [b, b']
  | b :: hi :: lo :: rest =>
    if b = 0x25 then
      match escape? hi lo with
      | some x => x :: decode rest
      | none => b :: decode (hi :: lo :: rest)
    else b :: decode (hi :: lo :: rest)

end Preseed.Percent

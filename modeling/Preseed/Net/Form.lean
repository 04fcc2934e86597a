import Preseed.Net.Percent
import Preseed.Text.Split

/-!
# Form encoding

Pairs of texts written as `key=value` pieces between `&`. A space is `+`, letters, digits and `*-._`
stand for themselves, and every other byte is percent-encoded.
-/

namespace Preseed.Form

def spaces (bytes : Bytes) : Bytes :=
  bytes.map fun b => if b = 0x2B then 0x20 else b

def decodeText (bytes : Bytes) : String :=
  Utf8.toStringLossy (Percent.decode (spaces bytes))

def decodePiece (piece : Bytes) : String × String :=
  let (key, value) := Split.cut 0x3D piece
  (decodeText key, decodeText value)

/-- The pairs of an encoded byte string; empty pieces are no pairs. -/
def decodeBytes (bytes : Bytes) : List (String × String) :=
  ((Split.pieces 0x26 bytes).filter (!·.isEmpty)).map decodePiece

def decode (query : String) : List (String × String) :=
  decodeBytes (Utf8.ofString query)

/-- ASCII characters that stand for themselves. -/
def isPlain (c : Char) : Bool :=
  Ascii.isAlphanumeric c || c ∈ ['*', '-', '.', '_']

def encodeChar (c : Char) : List Char :=
  if c = ' ' then ['+'] else Percent.encodeChar (fun c => !isPlain c) c

def encodeText (s : String) : List Char :=
  s.toList.flatMap encodeChar

def encodePair (pair : String × String) : List Char :=
  encodeText pair.1 ++ '=' :: encodeText pair.2

/-- The pairs in order, with `&` between them. -/
def encode (pairs : List (String × String)) : List Char :=
  ['&'].intercalate (pairs.map encodePair)

end Preseed.Form

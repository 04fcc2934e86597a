/-!
# UTF-8

Encoding of characters as bytes, and the cutting of a byte string into characters and faults. A fault
is a longest run of bytes that begins some character but does not finish it, so every fault stands for
one replacement character.
-/

namespace Preseed

/-- A byte string. -/
abbrev Bytes := List UInt8

namespace Utf8

/-- The bytes of one character. -/
def encodeChar (c : Char) : Bytes :=
  let n := c.toNat
  if n < 0x80 then [UInt8.ofNat n]
  else if n < 0x800 then [UInt8.ofNat (0xC0 + n / 0x40), UInt8.ofNat (0x80 + n % 0x40)]
  else if n < 0x10000 then
    [UInt8.ofNat (0xE0 + n / 0x1000), UInt8.ofNat (0x80 + n / 0x40 % 0x40),
      UInt8.ofNat (0x80 + n % 0x40)]
  else
    [UInt8.ofNat (0xF0 + n / 0x40000), UInt8.ofNat (0x80 + n / 0x1000 % 0x40),
      UInt8.ofNat (0x80 + n / 0x40 % 0x40), UInt8.ofNat (0x80 + n % 0x40)]

def encode (cs : List Char) : Bytes :=
  cs.flatMap encodeChar

def ofString (s : String) : Bytes :=
  encode s.toList

/-- A byte of the form `10xxxxxx`. -/
def isContinuation (b : Nat) : Bool :=
  0x80 ≤ b && b < 0xC0

/-- Whether `b` may follow the leading byte `lead`: the first byte after the lead excludes overlong
forms, surrogates and values above `U+10FFFF`. -/
def follows (lead b : Nat) : Bool :=
  if lead == 0xE0 then 0xA0 ≤ b && b < 0xC0
  else if lead == 0xED then 0x80 ≤ b && b < 0xA0
  else if lead == 0xF0 then 0x90 ≤ b && b < 0xC0
  else if lead == 0xF4 then 0x80 ≤ b && b < 0x90
  else isContinuation b

/-- Reads the bytes that finish a character: each must pass its test and gives six bits. -/
def finish : List (Nat → Bool) → Nat → Bytes → Option Char × Bytes
  | [], bits, rest => (some (Char.ofNat bits), rest)
  | _ :: _, _, [] => (none, [])
  | ok :: oks, bits, b :: rest =>
    if ok b.toNat then finish oks (bits * 0x40 + (b.toNat - 0x80)) rest else (none, b :: rest)

/-- The first character of a byte string, or none for a fault, and the bytes after it. -/
def next (b : UInt8) (rest : Bytes) : Option Char × Bytes :=
  if b.toNat < 0x80 then (some (Char.ofNat b.toNat), rest)
  else if b.toNat < 0xC2 then (none, rest)
  else if b.toNat < 0xE0 then finish [isContinuation] (b.toNat - 0xC0) rest
  else if b.toNat < 0xF0 then finish [follows b.toNat, isContinuation] (b.toNat - 0xE0) rest
  else if b.toNat < 0xF5 then
    finish [follows b.toNat, isContinuation, isContinuation] (b.toNat - 0xF0) rest
  else (none, rest)

theorem length_finish_le (oks : List (Nat → Bool)) (bits : Nat) (rest : Bytes) :
    (finish oks bits rest).2.length ≤ rest.length := by
  induction oks generalizing bits rest with
  | nil => simp [finish]
  | cons ok oks ih =>
    cases rest with
    | nil => simp [finish]
    | cons b rest =>
      unfold finish
      split
      · exact Nat.le_succ_of_le (ih _ _)
      · exact Nat.le_refl _

theorem length_next_le (b : UInt8) (rest : Bytes) : (next b rest).2.length ≤ rest.length := by
  unfold next
  repeat' split
  · exact Nat.le_refl _
  · exact Nat.le_refl _
  · exact length_finish_le _ _ _
  · exact length_finish_le _ _ _
  · exact length_finish_le _ _ _
  · exact Nat.le_refl _

/-- The characters and faults of a byte string, in order. -/
def pieces : Bytes → List (Option Char)
  | [] => []
  | b :: rest => (next b rest).1 :: pieces (next b rest).2
termination_by bytes => bytes.length
decreasing_by
  simp only [List.length_cons]
  exact Nat.lt_succ_of_le (length_next_le b rest)

/-- The characters of well-formed bytes; none when there is a fault. -/
def decode? (bytes : Bytes) : Option (List Char) :=
  (pieces bytes).mapM id

/-- The characters of a byte string, with `U+FFFD` for every fault. -/
def decodeLossy (bytes : Bytes) : List Char :=
  (pieces bytes).map (·.getD '\uFFFD')

def toString? (bytes : Bytes) : Option String :=
  (decode? bytes).map String.ofList

def toStringLossy (bytes : Bytes) : String :=
  String.ofList (decodeLossy bytes)

/-- The number of bytes of a text. -/
def size (s : String) : Nat :=
  (ofString s).length

end Utf8

end Preseed

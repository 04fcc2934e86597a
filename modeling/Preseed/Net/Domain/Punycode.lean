import Preseed.Text.Ascii

/-!
# Punycode

The characters of a label beyond ASCII, written as one row of ASCII letters and digits. Each stands for
the way from the character before it, in order of code points, to its place in the label; small steps
have few digits, and how many depends on the steps so far.
-/

namespace Preseed.Punycode

def base : Nat := 36

/-- The first code point that is written. -/
def initialPoint : Nat := 128

def initialBias : Nat := 72

/-- The digit at place `k` that ends a number: a lower digit than this one is the last. -/
def threshold (bias k : Nat) : Nat :=
  if k ≤ bias then 1 else if bias + 26 ≤ k then 26 else k - bias

theorem one_le_threshold (bias k : Nat) : 1 ≤ threshold bias k := by
  unfold threshold
  repeat' split
  all_goals omega

theorem threshold_le (bias k : Nat) : threshold bias k ≤ 26 := by
  unfold threshold
  repeat' split
  all_goals omega

/-- The bias for steps of about this size. -/
def biasOf (step k : Nat) : Nat :=
  if 455 < step then biasOf (step / 35) (k + base) else k + base * step / (step + 38)
termination_by step
decreasing_by omega

/-- The bias behind a step in a label that now has `count` characters. -/
def adapt (step count : Nat) (first : Bool) : Nat :=
  let step := if first then step / 700 else step / 2
  biasOf (step + step / count) 0

/-! ## Writing -/

def digit (n : Nat) : Char :=
  if n < 26 then Char.ofNat ('a'.toNat + n) else Char.ofNat ('0'.toNat + (n - 26))

/-- The digits of a number, beginning with place `k`. -/
def digits (bias k n : Nat) : List Char :=
  let t := threshold bias k
  if n < t then [digit n]
  else digit (t + (n - t) % (base - t)) :: digits bias (k + base) ((n - t) / (base - t))
termination_by n
decreasing_by
  have h := one_le_threshold bias k
  have h' := threshold_le bias k
  have : (n - threshold bias k) / (base - threshold bias k) ≤ n - threshold bias k := Nat.div_le_self _ _
  omega

/-- What has been written: the way since the last written character and how many there are. -/
structure Writer where
  step : Nat := 0
  bias : Nat := initialBias
  count : Nat
  /-- Nothing beyond ASCII has been written. -/
  first : Bool := true
  written : List Char := []

namespace Writer

/-- Passes one character of the label while the code point `point` is being written. -/
def pass (point : Nat) (w : Writer) (c : Char) : Writer :=
  if c.toNat < point then { w with step := w.step + 1 }
  else if c.toNat = point then
    { step := 0
      bias := adapt w.step (w.count + 1) w.first
      count := w.count + 1
      first := false
      written := w.written ++ digits w.bias base w.step }
  else w

/-- Writes all characters with one code point; `next` is the least that is not yet written. -/
def writePoint (cs : List Char) (state : Writer × Nat) (point : Nat) : Writer × Nat :=
  let (w, next) := state
  let w := { w with step := w.step + (point - next) * (w.count + 1) }
  let w := cs.foldl (pass point) w
  ({ w with step := w.step + 1 }, point + 1)

end Writer

def isAscii (c : Char) : Bool :=
  c.toNat < 0x80

/-- A label, its ASCII characters first. -/
def encode (cs : List Char) : List Char :=
  let plain := cs.filter isAscii
  let points := (((cs.filter (!isAscii ·)).map Char.toNat).mergeSort).eraseDups
  let start : Writer := { count := plain.length }
  plain ++ (if plain.isEmpty then [] else ['-']) ++
    (points.foldl (Writer.writePoint cs) (start, initialPoint)).1.written

/-! ## Reading -/

/-- The value of a small letter or a digit. -/
def digit? (c : Char) : Option Nat :=
  if 'a' ≤ c && c ≤ 'z' then some (c.toNat - 'a'.toNat)
  else if Ascii.isDigit c then some (c.toNat - '0'.toNat + 26)
  else none

/-- The label so far, and the number that is being read. -/
structure Reader where
  label : List Char
  point : Nat := initialPoint
  bias : Nat := initialBias
  /-- The place behind the last character that was put in. -/
  start : Nat := 0
  value : Nat := 0
  weight : Nat := 1
  k : Nat := base

namespace Reader

/-- Puts the character in whose number has ended. -/
def insert? (r : Reader) : Option Reader :=
  let count := r.label.length + 1
  let point := r.point + r.value / count
  let place := r.value % count
  if h : point.isValidChar then
    some
      { label := r.label.take place ++ Char.ofNatAux point h :: r.label.drop place
        point
        bias := adapt (r.value - r.start) count (r.start == 0)
        start := place + 1
        value := place + 1 }
  else none

def step? (r : Reader) (c : Char) : Option Reader := do
  let d ← digit? c
  let t := threshold r.bias r.k
  let r := { r with value := r.value + d * r.weight }
  if d < t then r.insert?
  else some { r with weight := r.weight * (base - t), k := r.k + base }

end Reader

/-- The ASCII characters before the last hyphen, and the digits behind it. -/
def parts (cs : List Char) : List Char × List Char :=
  let tail := (cs.reverse.takeWhile (· != '-')).reverse
  let head := cs.take (cs.length - tail.length - 1)
  if head.isEmpty then ([], cs) else (head, tail)

/-- The label that a row of ASCII characters writes. -/
def decode? (cs : List Char) : Option (List Char) := do
  let (plain, tail) := parts cs
  let r ← tail.foldlM Reader.step? { label := plain }
  if r.k = base then some r.label else none

end Preseed.Punycode

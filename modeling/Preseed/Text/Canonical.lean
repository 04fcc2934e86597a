import Preseed.Text.Canonical.Table

/-!
# Canonical composition

Equivalent texts have one composed form: every character is taken apart, the marks behind a character
are put into the order of their classes, and pairs are put together again.
-/

namespace Preseed.Canonical

/-! ## Syllables, which are composed of two or three letters by rule -/

def syllableBase : Nat := 0xAC00

def leadBase : Nat := 0x1100

def vowelBase : Nat := 0x1161

/-- One before the first closing letter. -/
def closeBase : Nat := 0x11A7

def vowelCount : Nat := 21

def closeCount : Nat := 28

def leadCount : Nat := 19

def syllableCount : Nat := leadCount * vowelCount * closeCount

/-- The letters of a syllable. -/
def letters? (n : Nat) : Option (List Nat) :=
  if syllableBase ≤ n && n < syllableBase + syllableCount then
    let i := n - syllableBase
    let close := i % closeCount
    some ([leadBase + i / (vowelCount * closeCount), vowelBase + i / closeCount % vowelCount] ++
      (if close = 0 then [] else [closeBase + close]))
  else none

/-- The syllable of a leading letter and a vowel, or of an open syllable and a closing letter. -/
def syllable? (a b : Nat) : Option Nat :=
  if leadBase ≤ a && a < leadBase + leadCount && vowelBase ≤ b && b < vowelBase + vowelCount then
    some (syllableBase + ((a - leadBase) * vowelCount + (b - vowelBase)) * closeCount)
  else if syllableBase ≤ a && a < syllableBase + syllableCount &&
      (a - syllableBase) % closeCount == 0 && closeBase < b && b < closeBase + closeCount then
    some (a + (b - closeBase))
  else none

/-! ## Taking apart -/

/-- The parts of a character; a pair's first half may be composed in turn, up to `depth` times. -/
def parts : (depth : Nat) → Nat → List Nat
  | 0, n => [n]
  | depth + 1, n =>
    match letters? n with
    | some ls => ls
    | none =>
      match composites.find? (·.whole == n) with
      | some c => parts depth c.first ++ [c.second]
      | none => [n]

/-- No character is composed more than three times. -/
def maxDepth : Nat := 4

def decomposeChar (c : Char) : List Char :=
  if c.toNat < 0xC0 then [c]
  else
    match Replacement.find? replaced c with
    | some cs => cs
    | none => (parts maxDepth c.toNat).map Char.ofNat

/-- The combining class of a character; letters have class zero. -/
def classOf (c : Char) : Nat :=
  if c.toNat < 0x300 then 0
  else ((classes.find? fun (_, members) => members.contains c.toNat).map (·.1)).getD 0

/-- Puts a character before ordered ones, behind the marks of lower classes. -/
def place (c : Char) : List Char → List Char
  | [] => [c]
  | d :: rest =>
    if 0 < classOf d && classOf d < classOf c then d :: place c rest else c :: d :: rest

/-- The marks behind every letter in the order of their classes; marks of one class stay in order. -/
def order (cs : List Char) : List Char :=
  cs.foldr place []

def decompose (cs : List Char) : List Char :=
  order (cs.flatMap decomposeChar)

/-! ## Putting together -/

def pair? (a b : Char) : Option Char :=
  match syllable? a.toNat b.toNat with
  | some n => some (Char.ofNat n)
  | none =>
    (composites.find? fun c => c.first == a.toNat && c.second == b.toNat).map
      fun c => Char.ofNat c.whole

/-- Puts a letter together with what follows it; `marks` holds the marks that stay, the last first. -/
def composeFrom (letter : Char) (marks : List Char) : List Char → List Char
  | [] => letter :: marks.reverse
  | c :: rest =>
    let blocked := match marks with
      | [] => false
      | m :: _ => classOf c ≤ classOf m
    match if blocked then none else pair? letter c with
    | some whole => composeFrom whole marks rest
    | none =>
      if classOf c = 0 then letter :: (marks.reverse ++ composeFrom c [] rest)
      else composeFrom letter (c :: marks) rest

def composeOrdered : List Char → List Char
  | [] => []
  | c :: rest => if classOf c = 0 then composeFrom c [] rest else c :: composeOrdered rest

/-- The composed form of a text. -/
def compose (cs : List Char) : List Char :=
  if cs.all fun c => c.toNat < 0x300 then cs else composeOrdered (decompose cs)

end Preseed.Canonical

import Preseed.Text.Ascii

/-!
# Binary floating point

Numbers of 53 binary digits: reading a decimal, which rounds to the nearest number and a tie to the even
one, and writing the fewest decimal digits that read back.
-/

namespace Preseed

/-- A number with a sign, or no number. A finite magnitude is `mantissa * 2 ^ exponent`, where the
mantissa has 53 binary digits unless the exponent is the least one. -/
inductive Double where
  | finite (negative : Bool) (mantissa : Nat) (exponent : Int)
  | infinity (negative : Bool)
  | nan
  deriving DecidableEq, Repr

namespace Double

def leastExponent : Int := -1074

def greatestExponent : Int := 971

/-- The quotient rounded to the nearest whole number, a tie to the even one. -/
def roundDiv (num den : Nat) : Nat :=
  let q := num / den
  let r := num % den
  if 2 * r < den then q
  else if den < 2 * r then q + 1
  else if q % 2 = 0 then q else q + 1

/-- The fraction `num / den` times `base ^ e`, as a fraction. -/
def scale (base : Nat) (e : Int) (num den : Nat) : Nat × Nat :=
  if 0 ≤ e then (num * Nat.pow base e.toNat, den) else (num, den * Nat.pow base (-e).toNat)

/-- The number nearest to a positive fraction. -/
def ofFraction (negative : Bool) (num den : Nat) : Double :=
  let q := (Nat.log2 num : Int) - Nat.log2 den - 52
  let (n, d) := scale 2 (-q) num den
  let q := if n < Nat.pow 2 52 * d then q - 1 else q
  let q := if q < leastExponent then leastExponent else q
  let (n, d) := scale 2 (-q) num den
  let m := roundDiv n d
  let (m, q) := if m = Nat.pow 2 53 then (Nat.pow 2 52, q + 1) else (m, q)
  if greatestExponent < q then .infinity negative else .finite negative m q

/-- The number nearest to `digits * 10 ^ e`. -/
def ofDecimal (negative : Bool) (digits : Nat) (e : Int) : Double :=
  if digits = 0 then .finite negative 0 leastExponent
  else
    let size := (Nat.toDigits 10 digits).length + e
    if 400 < size then .infinity negative
    else if size < -400 then .finite negative 0 leastExponent
    else
      let (n, d) := scale 10 e digits 1
      ofFraction negative n d

/-! ## Reading -/

/-- An exponent behind its letter: an optional sign and digits. -/
def exponent? (cs : List Char) : Option Int :=
  let (negative, digits) := match cs with
    | '-' :: rest => (true, rest)
    | '+' :: rest => (false, rest)
    | rest => (false, rest)
  if digits.isEmpty then none
  else (Ascii.number? 10 digits).map fun n => if negative then -(n : Int) else n

/-- A decimal: digits with an optional point and an optional exponent, at least one digit before it. -/
def unsigned? (negative : Bool) (cs : List Char) : Option Double := do
  let whole := cs.takeWhile Ascii.isDigit
  let rest := cs.dropWhile Ascii.isDigit
  let (part, rest) := match rest with
    | '.' :: rest => (rest.takeWhile Ascii.isDigit, rest.dropWhile Ascii.isDigit)
    | rest => ([], rest)
  if whole.isEmpty && part.isEmpty then none
  else
    let e ← match rest with
      | [] => some 0
      | c :: rest => if c == 'e' || c == 'E' then exponent? rest else none
    let digits ← Ascii.number? 10 (whole ++ part)
    some (ofDecimal negative digits (e - part.length))

/-- A decimal, infinity or no number, with an optional sign. -/
def ofChars? (cs : List Char) : Option Double :=
  let (negative, rest) := match cs with
    | '-' :: rest => (true, rest)
    | '+' :: rest => (false, rest)
    | rest => (false, rest)
  let word := rest.map Char.toLower
  if word = "inf".toList || word = "infinity".toList then some (.infinity negative)
  else if word = "nan".toList then some .nan
  else unsigned? negative rest

def isFinite : Double → Bool
  | .finite .. => true
  | _ => false

/-! ## Writing -/

/-- Whether `d * 10 ^ e` reads back as the positive number `m * 2 ^ q`: it lies between the halfway points
to the neighbours, or on one of them if the mantissa is even. -/
def readsBack (m : Nat) (q : Int) (d : Nat) (e : Int) : Bool :=
  let low := if m = Nat.pow 2 52 && leastExponent < q then 4 * m - 1 else 4 * m - 2
  let high := 4 * m + 2
  let (dn, dd) := scale 10 e d 1
  let (ln, ld) := scale 2 (q - 2) low 1
  let (hn, hd) := scale 2 (q - 2) high 1
  if m % 2 = 0 then ln * dd ≤ dn * ld && dn * hd ≤ hn * dd
  else ln * dd < dn * ld && dn * hd < hn * dd

/-- The decimal with digits at `10 ^ e` and above that reads back and is nearest to the fraction, if one
does. -/
def onGrid? (m : Nat) (q : Int) (num den : Nat) (e : Int) : Option Nat :=
  let (n, d) := scale 10 (-e) num den
  let below := n / d
  let near := if 2 * (n % d) ≤ d then [below, below + 1] else [below + 1, below]
  near.find? fun x => readsBack m q x e

/-- The power of ten of a positive fraction's first digit. -/
def leadingPower (num den : Nat) : Int :=
  let guess : Int := (Nat.toDigits 10 num).length - (Nat.toDigits 10 den).length
  let (n, d) := scale 10 (-guess) num den
  if n < d then guess - 1 else guess

/-- The fewest digits that read back as a positive number, and the power of ten of the last of them. -/
def shortest (m : Nat) (q : Int) : Nat × Int :=
  let (num, den) := scale 2 q m 1
  let top := leadingPower num den
  let found := (List.range 17).findSome? fun (i : Nat) =>
    let e := top - (i : Int)
    (onGrid? m q num den e).map fun d => (d, e)
  found.getD (0, 0)

/-- The digits of a finite magnitude and the place of the point behind the first of them. -/
def digits (m : Nat) (q : Int) : List Char × Int :=
  if m = 0 then (['0'], 1)
  else
    let (d, e) := shortest m q
    let ds := Nat.toDigits 10 d
    let kept := (ds.reverse.dropWhile (· == '0')).reverse
    (kept, ds.length + e)

/-- The digits with the point at its place and zeros between. A whole number ends in `.0` if `pointed`. -/
def positional (pointed : Bool) (ds : List Char) (point : Int) : List Char :=
  if point ≤ 0 then '0' :: '.' :: (List.replicate (-point).toNat '0' ++ ds)
  else if ds.length ≤ point.toNat then
    ds ++ List.replicate (point.toNat - ds.length) '0' ++ (if pointed then ['.', '0'] else [])
  else ds.take point.toNat ++ '.' :: ds.drop point.toNat

def signed (negative : Bool) (cs : List Char) : String :=
  String.ofList (if negative then '-' :: cs else cs)

/-- The number in positional notation. -/
def toText (pointed : Bool) : Double → String
  | .finite negative m q =>
    let (ds, point) := digits m q
    signed negative (positional pointed ds point)
  | .infinity negative => signed negative "inf".toList
  | .nan => "NaN"

/-- The number in positional notation from `1e-5` below `1e16`, and with an exponent beyond. -/
def toCompactText : Double → String
  | .finite negative m q =>
    let (ds, point) := digits m q
    if m = 0 || (-5 < point && point ≤ 16) then signed negative (positional true ds point)
    else
      let e := point - 1
      let head := ds.take 1 ++ (if ds.length > 1 then '.' :: ds.drop 1 else [])
      signed negative (head ++ 'e' :: (toString e).toList)
  | .infinity negative => signed negative ".inf".toList
  | .nan => ".nan"

/-- The nearest whole number, a half away from zero, cut to 64 bits without sign. -/
def toUnsigned64 : Double → Nat
  | .finite true _ _ => 0
  | .finite false m q =>
    let (n, d) := scale 2 q m 1
    min ((2 * n + d) / (2 * d)) (Nat.pow 2 64 - 1)
  | .infinity negative => if negative then 0 else Nat.pow 2 64 - 1
  | .nan => 0

end Double

end Preseed

import Preseed.Number.Double

/-!
# JSON tokens

The texts, numbers, words and marks of a JSON text; white space stands between them.
-/

namespace Preseed.Json

inductive Token where
  | openArray
  | closeArray
  | openObject
  | closeObject
  | comma
  | colon
  | null
  | bool (b : Bool)
  | integer (i : Int)
  | real (d : Double)
  | text (cs : List Char)
  deriving DecidableEq, Repr

namespace Token

/-! ## Texts -/

/-- The number that four hexadecimal digits write. -/
def unit? (a b c d : Char) : Option Nat :=
  Ascii.number? 16 [a, b, c, d]

def isHighHalf (n : Nat) : Bool :=
  0xD800 ≤ n && n < 0xDC00

def isLowHalf (n : Nat) : Bool :=
  0xDC00 ≤ n && n < 0xE000

/-- The character that two halves make up. -/
def joinHalves (high low : Nat) : Char :=
  Char.ofNat (0x10000 + (high - 0xD800) * 0x400 + (low - 0xDC00))

/-- The character that a letter behind a backslash stands for. -/
def escaped? : Char → Option Char
  | '"' => some '"'
  | '\\' => some '\\'
  | '/' => some '/'
  | 'b' => some '\x08'
  | 'f' => some '\x0c'
  | 'n' => some '\n'
  | 'r' => some '\r'
  | 't' => some '\t'
  | _ => none

/-- The characters up to a closing quote, and what follows it. -/
def text? : List Char → Option (List Char × List Char)
  | [] => none
  | '"' :: rest => some ([], rest)
  | '\\' :: 'u' :: a :: b :: c :: d :: rest =>
    match unit? a b c d with
    | none => none
    | some n =>
      if isHighHalf n then
        match rest with
        | '\\' :: 'u' :: a' :: b' :: c' :: d' :: rest =>
          match unit? a' b' c' d' with
          | none => none
          | some low =>
            if isLowHalf low then (text? rest).map fun (cs, rest) => (joinHalves n low :: cs, rest)
            else none
        | _ => none
      else if isLowHalf n then none
      else (text? rest).map fun (cs, rest) => (Char.ofNat n :: cs, rest)
  | '\\' :: c :: rest =>
    match escaped? c with
    | none => none
    | some e => (text? rest).map fun (cs, rest) => (e :: cs, rest)
  | c :: rest =>
    if c < ' ' || c = '\\' then none else (text? rest).map fun (cs, rest) => (c :: cs, rest)

/-! ## Numbers -/

def isNumberChar (c : Char) : Bool :=
  Ascii.isDigit c || c ∈ ['+', '-', '.', 'e', 'E']

/-- Whether some characters are digits, at least one. -/
def isDigits (cs : List Char) : Bool :=
  !cs.isEmpty && cs.all Ascii.isDigit

/-- Digits without a needless zero in front. -/
def isWhole (cs : List Char) : Bool :=
  isDigits cs && (cs.length = 1 || cs.head? != some '0')

/-- What may follow the whole part: a point with digits, and an exponent with digits. -/
def isFraction (cs : List Char) : Bool :=
  let afterPoint := match cs with
    | '.' :: rest =>
      if isDigits (rest.takeWhile Ascii.isDigit) then some (rest.dropWhile Ascii.isDigit) else none
    | rest => some rest
  match afterPoint with
  | none => false
  | some [] => true
  | some (e :: '+' :: digits) | some (e :: '-' :: digits) => (e = 'e' || e = 'E') && isDigits digits
  | some (e :: digits) => (e = 'e' || e = 'E') && isDigits digits

/-- A number: whole if it has no fraction and fits 64 bits, and real otherwise. -/
def number? (cs : List Char) : Option Token := do
  let (negative, body) := match cs with
    | '-' :: body => (true, body)
    | body => (false, body)
  let whole := body.takeWhile Ascii.isDigit
  let fraction := body.dropWhile Ascii.isDigit
  if !isWhole whole || !isFraction fraction then none
  else
    let n ← Ascii.number? 10 whole
    if fraction.isEmpty && negative && 0 < n && n ≤ Nat.pow 2 63 then some (integer (-(n : Int)))
    else if fraction.isEmpty && !negative && n < Nat.pow 2 63 then some (integer n)
    else
      match Double.ofChars? cs with
      | some d => if d.isFinite then some (real d) else none
      | none => none

/-! ## The whole text -/

def mark? : Char → Option Token
  | '[' => some openArray
  | ']' => some closeArray
  | '\x7b' => some openObject
  | '\x7d' => some closeObject
  | ',' => some comma
  | ':' => some colon
  | _ => none

def word? (cs : List Char) : Option Token :=
  if cs = "null".toList then some null
  else if cs = "true".toList then some (bool true)
  else if cs = "false".toList then some (bool false)
  else none

def isSpace (c : Char) : Bool :=
  c = ' ' || c = '\t' || c = '\n' || c = '\r'

/-- The token at the beginning, and what follows it. -/
def next? (c : Char) (rest : List Char) : Option (Token × List Char) :=
  if c = '"' then (text? rest).map fun (cs, rest) => (text cs, rest)
  else
    match mark? c with
    | some token => some (token, rest)
    | none =>
      let inWord := if Ascii.isLetter c then Ascii.isLetter else isNumberChar
      let word := c :: rest.takeWhile inWord
      (if Ascii.isLetter c then word? word else number? word).map fun token =>
        (token, rest.dropWhile inWord)

theorem length_of_text? {cs : List Char} {found : List Char × List Char}
    (h : text? cs = some found) : found.2.length ≤ cs.length := by
  fun_induction text? cs generalizing found <;> simp_all
  all_goals
    obtain ⟨a, b, hfound, rfl⟩ := h
    grind

theorem length_dropWhile_le (p : Char → Bool) (cs : List Char) :
    (cs.dropWhile p).length ≤ cs.length :=
  (List.dropWhile_sublist p).length_le

theorem length_of_next? {c : Char} {rest : List Char} {found : Token × List Char}
    (h : next? c rest = some found) : found.2.length ≤ rest.length := by
  unfold next? at h
  split at h
  · obtain ⟨f, hf, rfl⟩ := Option.map_eq_some_iff.1 h
    exact length_of_text? hf
  · split at h
    · simp only [Option.some.injEq] at h
      simp [← h]
    · obtain ⟨t, -, rfl⟩ := Option.map_eq_some_iff.1 h
      exact length_dropWhile_le _ _

/-- The tokens of a text; none if it is not made of tokens. -/
def ofText? : List Char → Option (List Token)
  | [] => some []
  | c :: rest =>
    if isSpace c then ofText? rest
    else
      match _h : next? c rest with
      | none => none
      | some (token, rest) => (ofText? rest).map (token :: ·)
termination_by cs => cs.length
decreasing_by
  · simp
  · have := length_of_next? _h
    simp only [List.length_cons] at this ⊢
    omega

end Token

end Preseed.Json

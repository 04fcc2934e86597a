import Preseed.Json.Token

/-!
# JSON

The values of JSON texts. Arrays and objects may stand in one another up to a depth.
-/

namespace Preseed

inductive Json where
  | null
  | bool (b : Bool)
  | integer (i : Int)
  | real (d : Double)
  | text (s : String)
  | array (items : List Json)
  | object (members : List (String × Json))
  deriving Inhabited

namespace Json

/-- How deep arrays and objects may stand in one another. -/
def maxDepth : Nat := 127

mutual

/-- The value at the beginning of some tokens, and the tokens after it. -/
def value? : (fuel depth : Nat) → List Token → Option (Json × List Token)
  | fuel + 1, depth, token :: rest =>
    match token with
    | .null => some (null, rest)
    | .bool b => some (bool b, rest)
    | .integer i => some (integer i, rest)
    | .real d => some (real d, rest)
    | .text cs => some (text (String.ofList cs), rest)
    | .openArray =>
      match depth, rest with
      | 0, _ => none
      | _ + 1, .closeArray :: rest => some (array [], rest)
      | depth + 1, rest => (items? fuel depth rest).map fun (items, rest) => (array items, rest)
    | .openObject =>
      match depth, rest with
      | 0, _ => none
      | _ + 1, .closeObject :: rest => some (object [], rest)
      | depth + 1, rest => (members? fuel depth rest).map fun (ms, rest) => (object ms, rest)
    | _ => none
  | _, _, _ => none

/-- The items up to the end of an array. -/
def items? : (fuel depth : Nat) → List Token → Option (List Json × List Token)
  | fuel + 1, depth, tokens => do
    let (item, rest) ← value? fuel depth tokens
    match rest with
    | .closeArray :: rest => some ([item], rest)
    | .comma :: rest =>
      let (items, rest) ← items? fuel depth rest
      some (item :: items, rest)
    | _ => none
  | 0, _, _ => none

/-- The members up to the end of an object. -/
def members? : (fuel depth : Nat) → List Token → Option (List (String × Json) × List Token)
  | fuel + 1, depth, .text key :: .colon :: rest => do
    let (value, rest) ← value? fuel depth rest
    match rest with
    | .closeObject :: rest => some ([(String.ofList key, value)], rest)
    | .comma :: rest =>
      let (members, rest) ← members? fuel depth rest
      some ((String.ofList key, value) :: members, rest)
    | _ => none
  | _, _, _ => none

end

/-- The value that a text holds. -/
def ofText? (source : String) : Option Json := do
  let tokens ← Token.ofText? source.toList
  match ← value? (2 * tokens.length + 1) maxDepth tokens with
  | (value, []) => some value
  | _ => none

end Json

end Preseed

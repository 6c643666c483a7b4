import CacheSim.Json.Value

/-!
# Reading JSON

A text is first cut into tokens, from left to right with one character a step, and the tokens are
then put together to a value.  Two values never stand side by side in JSON, so cutting each token
as long as possible accepts the same texts as a reader that knows where a value ends.
-/

namespace CacheSim.Json

/-- A unit of a JSON text. -/
inductive Token where
  | openBrace
  | closeBrace
  | openBracket
  | closeBracket
  | colon
  | comma
  | null
  | bool (b : Bool)
  | number (literal : String)
  | string (text : Option String)

/-- Where a cut through a text stands. -/
inductive Cut where
  /-- Between tokens. -/
  | between
  /-- In a word, with its letters so far, latest first. -/
  | word (letters : List Char)
  /-- In a number, with its characters so far, latest first. -/
  | number (chars : List Char)
  /-- In a string, with its code points so far, latest first. -/
  | string (points : List Nat)
  /-- In a string, after a backslash. -/
  | escape (points : List Nat)
  /-- In a string, in the number of a code point, of which `missing` digits are still to come. -/
  | point (points : List Nat) (missing value : Nat)

/-- The token of a word. -/
def wordToken? : String → Option Token
  | "null" => some .null
  | "true" => some (.bool true)
  | "false" => some (.bool false)
  | _ => none

/-- Whether characters are one or more digits. -/
def isDigits (cs : List Char) : Bool :=
  !cs.isEmpty && cs.all Char.isDigit

/-- Whether characters are the exponent of a number, or nothing. -/
def isExponent : List Char → Bool
  | [] => true
  | e :: '+' :: cs => (e == 'e' || e == 'E') && isDigits cs
  | e :: '-' :: cs => (e == 'e' || e == 'E') && isDigits cs
  | e :: cs => (e == 'e' || e == 'E') && isDigits cs

/-- Whether characters are the fraction and exponent of a number. -/
def isFractionAndExponent : List Char → Bool
  | '.' :: cs =>
    !(cs.takeWhile Char.isDigit).isEmpty && isExponent (cs.dropWhile Char.isDigit)
  | cs => isExponent cs

/-- Whether characters are a number: no further digit stands before or after a leading zero. -/
def isNumber (cs : List Char) : Bool :=
  let cs := if cs.head? == some '-' then cs.tail else cs
  match cs with
  | '0' :: rest => isFractionAndExponent rest
  | _ => !(cs.takeWhile Char.isDigit).isEmpty && isFractionAndExponent (cs.dropWhile Char.isDigit)

/-- The characters of code points in which every half of a surrogate pair must meet the other
half. -/
def joinSurrogates : List Nat → Option (List Char)
  | [] => some []
  | p :: rest =>
    if 0xD800 ≤ p ∧ p < 0xDC00 then
      match rest with
      | q :: rest =>
        if 0xDC00 ≤ q ∧ q < 0xE000 then
          (Char.ofNat (0x10000 + (p - 0xD800) * 0x400 + (q - 0xDC00)) :: ·) <$> joinSurrogates rest
        else none
      | [] => none
    else if 0xDC00 ≤ p ∧ p < 0xE000 then none
    else (Char.ofNat p :: ·) <$> joinSurrogates rest

/-- The code point that an escaped character stands for. -/
def escaped? : Char → Option Nat
  | '\x22' => some 0x22
  | '\\' => some 0x5c
  | '/' => some 0x2f
  | 'b' => some 0x08
  | 'f' => some 0x0c
  | 'n' => some 0x0a
  | 'r' => some 0x0d
  | 't' => some 0x09
  | _ => none

/-- The value of a digit in base 16. -/
def hexDigit? (c : Char) : Option Nat :=
  if '0' ≤ c ∧ c ≤ '9' then some (c.toNat - '0'.toNat)
  else if 'a' ≤ c ∧ c ≤ 'f' then some (c.toNat - 'a'.toNat + 10)
  else if 'A' ≤ c ∧ c ≤ 'F' then some (c.toNat - 'A'.toNat + 10)
  else none

/-- Whether a character can stand in a number. -/
def isNumberChar (c : Char) : Bool :=
  c.isDigit || c == '+' || c == '-' || c == '.' || c == 'e' || c == 'E'

/-- The cut and the tokens, latest first, after a character that stands between tokens. -/
def startToken (c : Char) (tokens : List Token) : Option (Cut × List Token) :=
  if c == ' ' || c == '\t' || c == '\n' || c == '\r' then some (.between, tokens)
  else if c == '\x7b' then some (.between, .openBrace :: tokens)
  else if c == '\x7d' then some (.between, .closeBrace :: tokens)
  else if c == '[' then some (.between, .openBracket :: tokens)
  else if c == ']' then some (.between, .closeBracket :: tokens)
  else if c == ':' then some (.between, .colon :: tokens)
  else if c == ',' then some (.between, .comma :: tokens)
  else if c == '\x22' then some (.string [], tokens)
  else if c == '-' || c.isDigit then some (.number [c], tokens)
  else if c.isLower then some (.word [c], tokens)
  else none

/-- The tokens after a word or number has ended. -/
def endToken (cut : Cut) (tokens : List Token) : Option (List Token) :=
  match cut with
  | .between => some tokens
  | .word letters => (· :: tokens) <$> wordToken? (String.ofList letters.reverse)
  | .number chars =>
    if isNumber chars.reverse then some (.number (String.ofList chars.reverse) :: tokens) else none
  | .string _ => none
  | .escape _ => none
  | .point _ _ _ => none

/-- The cut and the tokens after a further character. -/
def stepToken (cut : Cut) (tokens : List Token) (c : Char) : Option (Cut × List Token) :=
  match cut with
  | .between => startToken c tokens
  | .word letters =>
    if c.isLower then some (.word (c :: letters), tokens)
    else endToken cut tokens >>= startToken c
  | .number chars =>
    if isNumberChar c then some (.number (c :: chars), tokens)
    else endToken cut tokens >>= startToken c
  | .string points =>
    if c == '\x22' then
      some (.between, .string (String.ofList <$> joinSurrogates points.reverse) :: tokens)
    else if c == '\\' then some (.escape points, tokens)
    else if c.toNat < 0x20 then none
    else some (.string (c.toNat :: points), tokens)
  | .escape points =>
    if c == 'u' then some (.point points 4 0, tokens)
    else (escaped? c).map fun p => (.string (p :: points), tokens)
  | .point points missing value =>
    (hexDigit? c).map fun d =>
      if missing ≤ 1 then (.string ((16 * value + d) :: points), tokens)
      else (.point points (missing - 1) (16 * value + d), tokens)

/-- The tokens of a text. -/
def tokens? (text : List Char) : Option (List Token) := do
  let (cut, tokens) ← text.foldlM (fun (cut, tokens) c => stepToken cut tokens c) (.between, [])
  List.reverse <$> endToken cut tokens

mutual

/-- The value at the start of the tokens, and the tokens after it.  The nesting is at most
`depth`. -/
def value? (depth : Nat) (tokens : List Token) : Option (Value × List Token) :=
  match depth with
  | 0 => none
  | depth + 1 =>
    match tokens with
    | .null :: rest => some (.null, rest)
    | .bool b :: rest => some (.bool b, rest)
    | .number literal :: rest => some (.number literal, rest)
    | .string text :: rest => some (.string text, rest)
    | .openBracket :: .closeBracket :: rest => some (.array [], rest)
    | .openBracket :: rest => items? depth [] rest
    | .openBrace :: .closeBrace :: rest => some (.object [], rest)
    | .openBrace :: rest => members? depth [] rest
    | _ => none

/-- The array whose items up to here are given, latest first. -/
def items? (depth : Nat) (items : List Value) (tokens : List Token) :
    Option (Value × List Token) :=
  match depth with
  | 0 => none
  | depth + 1 =>
    match value? depth tokens with
    | some (v, .comma :: rest) => items? depth (v :: items) rest
    | some (v, .closeBracket :: rest) => some (.array (v :: items).reverse, rest)
    | _ => none

/-- The object whose members up to here are given, latest first. -/
def members? (depth : Nat) (members : List (Option String × Value)) (tokens : List Token) :
    Option (Value × List Token) :=
  match depth with
  | 0 => none
  | depth + 1 =>
    match tokens with
    | .string key :: .colon :: rest =>
      match value? depth rest with
      | some (v, .comma :: rest) => members? depth ((key, v) :: members) rest
      | some (v, .closeBrace :: rest) => some (.object ((key, v) :: members).reverse, rest)
      | _ => none
    | _ => none

end

/-- The value that a text stands for. -/
def parse? (text : String) : Option Value := do
  let tokens ← tokens? text.toList
  match value? (2 * tokens.length + 1) tokens with
  | some (v, []) => some v
  | _ => none

end CacheSim.Json

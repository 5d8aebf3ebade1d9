import FilterSql.Json.Basic
import FilterSql.Text.Bytes

/-!
# FilterSql.Json.Token

The tokens of JSON text, their written form, and the reading of a text as tokens. Reading is
strict: blanks are space, tab, line feed and carriage return only, a string holds no raw control
character, a number no superfluous zero in front.

A number beyond the finite range and a string with an escape that stands for no character, a lone
surrogate, have the form of a token, but no value.
-/

namespace FilterSql
namespace Json

inductive Token where
  | openArr
  | closeArr
  | openObj
  | closeObj
  | comma
  | colon
  | null
  | bool (value : Bool)
  /-- None for a number beyond the finite range. -/
  | num (value : Option Number)
  /-- None for a string with a lone surrogate. -/
  | str (value : Option String)
deriving DecidableEq

/-- Only `"`, the backslash and the characters below U+0020 are escaped. -/
def escape (c : Char) : List Char :=
  if c == '"' then ['\\', '"']
  else if c == '\\' then ['\\', '\\']
  else if c == '\x08' then ['\\', 'b']
  else if c == '\t' then ['\\', 't']
  else if c == '\n' then ['\\', 'n']
  else if c == '\x0c' then ['\\', 'f']
  else if c == '\r' then ['\\', 'r']
  else if c.toNat < 0x20 then ['\\', 'u'] ++ Decimal.paddedIn 16 4 c.toNat
  else [c]

def stringChars (s : String) : List Char := '"' :: s.toList.flatMap escape ++ ['"']

namespace Token

/-- The written form; a token without a value has none. -/
def chars : Token → List Char
  | .openArr => ['[']
  | .closeArr => [']']
  | .openObj => ['{']
  | .closeObj => ['}']
  | .comma => [',']
  | .colon => [':']
  | .null => "null".toList
  | .bool true => "true".toList
  | .bool false => "false".toList
  | .num (some n) => n.chars
  | .str (some s) => stringChars s
  | .num none | .str none => []

/-! ## Reading -/

def isSpace (c : Char) : Bool := c == ' ' || c == '\t' || c == '\n' || c == '\r'

/-- The value of four hexadecimal digits, and the rest of the text. -/
def readHex : List Char → Option (Nat × List Char)
  | a :: b :: c :: d :: rest =>
    match Text.hexDigit? a, Text.hexDigit? b, Text.hexDigit? c, Text.hexDigit? d with
    | some a, some b, some c, some d => some (((a * 16 + b) * 16 + c) * 16 + d, rest)
    | _, _, _, _ => none
  | _ => none

/-- The character of an escape of one letter. -/
def unescape? : Char → Option Char
  | '"' => some '"'
  | '\\' => some '\\'
  | '/' => some '/'
  | 'b' => some '\x08'
  | 'f' => some '\x0c'
  | 'n' => some '\n'
  | 'r' => some '\r'
  | 't' => some '\t'
  | _ => none

/-- The character beyond U+FFFF that a first surrogate makes with the escape of a second one at the
start of the text, and the rest. -/
def readSecond (first : Nat) : List Char → Option (Char × List Char)
  | '\\' :: 'u' :: rest =>
    match readHex rest with
    | none => none
    | some (n, rest) =>
      if 0xDC00 ≤ n && n < 0xE000 then
        some (Char.ofNat (0x10000 + (first - 0xD800) * 0x400 + (n - 0xDC00)), rest)
      else none
  | _ => none

/-- The character that the text behind `\u` stands for, none for a lone surrogate, and the rest. -/
def readUnicode (s : List Char) : Option (Option Char × List Char) :=
  match readHex s with
  | none => none
  | some (n, rest) =>
    if n < 0xD800 || 0xE000 ≤ n then some (some (Char.ofNat n), rest)
    else if 0xDC00 ≤ n then some (none, rest)
    else
      match readSecond n rest with
      | some (c, rest) => some (some c, rest)
      | none => some (none, rest)

/-- One character of a string, none for a lone surrogate, and the rest of the text. -/
def readChar : List Char → Option (Option Char × List Char)
  | [] => none
  | '\\' :: 'u' :: rest => readUnicode rest
  | '\\' :: c :: rest => (unescape? c).map fun c => (some c, rest)
  | ['\\'] => none
  | c :: rest => if c.toNat < 0x20 then none else some (some c, rest)

/-- The characters of a string whose opening quote has been read, and the text behind the closing
one. The fuel is more than the length of the text. -/
def readString : Nat → List Char → Option (List (Option Char) × List Char)
  | 0, _ => none
  | _ + 1, '"' :: rest => some ([], rest)
  | fuel + 1, s =>
    match readChar s with
    | none => none
    | some (c, rest) => (readString fuel rest).map fun r => (c :: r.1, r.2)

/-- The text of characters if all of them are there. -/
def textOf? (s : List (Option Char)) : Option String :=
  if s.all Option.isSome then some (String.ofList (s.filterMap id)) else none

/-- An optional minus. -/
def readMinus : List Char → Bool × List Char
  | '-' :: rest => (true, rest)
  | s => (false, s)

/-- The digits behind a point; no digits if there is no point. -/
def readFraction : List Char → Option (List Char × List Char)
  | '.' :: rest =>
    match rest.span Decimal.isDigit with
    | ([], _) => none
    | (digits, rest) => some (digits, rest)
  | s => some ([], s)

/-- The sign and the digits behind the mark of an exponent. -/
def readPower (s : List Char) : Option (Int × List Char) :=
  let (negative, s) :=
    match s with
    | '+' :: rest => (false, rest)
    | s => readMinus s
  match s.span Decimal.isDigit with
  | ([], _) => none
  | (digits, rest) =>
    let n := Decimal.digitsValue digits
    some (if negative then -n else n, rest)

/-- The exponent, if there is one. -/
def readExponent : List Char → Option (Option Int × List Char)
  | 'e' :: rest => (readPower rest).map fun r => (some r.1, r.2)
  | 'E' :: rest => (readPower rest).map fun r => (some r.1, r.2)
  | s => some (none, s)

/-- A number: an optional minus, an integer part without superfluous zeros, and an optional
fraction and exponent. -/
def readNumber (s : List Char) : Option (Option Number × List Char) :=
  let (negative, s) := readMinus s
  let (whole, s) := s.span Decimal.isDigit
  if whole.isEmpty || (whole.head? == some '0' && 1 < whole.length) then none
  else
    match readFraction s with
    | none => none
    | some (fraction, s) =>
      match readExponent s with
      | none => none
      | some (exponent, rest) => some (Number.ofDigits? negative whole fraction exponent, rest)

/-- The first token of a text that does not start with a blank, and the rest. The fuel is at least
the length of the text. -/
def readToken (fuel : Nat) : List Char → Option (Token × List Char)
  | '[' :: rest => some (.openArr, rest)
  | ']' :: rest => some (.closeArr, rest)
  | '{' :: rest => some (.openObj, rest)
  | '}' :: rest => some (.closeObj, rest)
  | ',' :: rest => some (.comma, rest)
  | ':' :: rest => some (.colon, rest)
  | 'n' :: 'u' :: 'l' :: 'l' :: rest => some (.null, rest)
  | 't' :: 'r' :: 'u' :: 'e' :: rest => some (.bool true, rest)
  | 'f' :: 'a' :: 'l' :: 's' :: 'e' :: rest => some (.bool false, rest)
  | '"' :: rest =>
    (readString fuel rest).map fun r => (.str (textOf? r.1), r.2)
  | s => (readNumber s).map fun r => (.num r.1, r.2)

def readAll : Nat → List Char → Option (List Token)
  | 0, _ => none
  | fuel + 1, s =>
    match s.dropWhile isSpace with
    | [] => some []
    | s =>
      match readToken fuel s with
      | none => none
      | some (token, rest) => (readAll fuel rest).map (token :: ·)

/-- The tokens of a text; each takes at least one character. -/
def ofText? (s : List Char) : Option (List Token) := readAll (s.length + 1) s

end Token
end Json
end FilterSql

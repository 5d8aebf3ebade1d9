import FilterSql.Json.Token

/-!
# FilterSql.Json.Printer

JSON values as text: compact, or with one item a line and two blanks for each level.
-/

namespace FilterSql
namespace Json

mutual

/-- The tokens of the compact text. -/
def tokens : Json → List Token
  | .null => [.null]
  | .bool b => [.bool b]
  | .num n => [.num (some n)]
  | .str s => [.str (some s)]
  | .arr items => .openArr :: itemTokens items
  | .obj fields => .openObj :: fieldTokens fields

/-- The items behind an opening bracket, and the closing one. -/
def itemTokens : List Json → List Token
  | [] => [.closeArr]
  | v :: rest => tokens v ++ moreItemTokens rest

def moreItemTokens : List Json → List Token
  | [] => [.closeArr]
  | v :: rest => .comma :: tokens v ++ moreItemTokens rest

/-- The fields behind an opening brace, and the closing one. -/
def fieldTokens : List (String × Json) → List Token
  | [] => [.closeObj]
  | (k, v) :: rest => .str (some k) :: .colon :: tokens v ++ moreFieldTokens rest

def moreFieldTokens : List (String × Json) → List Token
  | [] => [.closeObj]
  | (k, v) :: rest => .comma :: .str (some k) :: .colon :: tokens v ++ moreFieldTokens rest

end

def chars (v : Json) : List Char := v.tokens.flatMap Token.chars

/-- The compact text of a value. -/
def text (v : Json) : String := String.ofList v.chars

/-- A line end, and the indentation of a level. -/
def lineAt (level : Nat) : List Char := '\n' :: List.replicate (2 * level) ' '

mutual

def prettyChars (level : Nat) : Json → List Char
  | .arr [] => ['[', ']']
  | .arr (v :: rest) =>
    '[' :: lineAt (level + 1) ++ prettyChars (level + 1) v ++ prettyItems (level + 1) rest ++
      lineAt level ++ [']']
  | .obj [] => ['{', '}']
  | .obj ((k, v) :: rest) =>
    '{' :: lineAt (level + 1) ++ stringChars k ++ [':', ' '] ++ prettyChars (level + 1) v ++
      prettyFields (level + 1) rest ++ lineAt level ++ ['}']
  | v => v.chars

def prettyItems (level : Nat) : List Json → List Char
  | [] => []
  | v :: rest => ',' :: lineAt level ++ prettyChars level v ++ prettyItems level rest

def prettyFields (level : Nat) : List (String × Json) → List Char
  | [] => []
  | (k, v) :: rest =>
    ',' :: lineAt level ++ stringChars k ++ [':', ' '] ++ prettyChars level v ++
      prettyFields level rest

end

def pretty (v : Json) : String := String.ofList (v.prettyChars 0)

end Json

/-- The text of a row or of another map of fields. -/
def Fields.text (fields : Fields) : String := (Json.obj fields).text

end FilterSql

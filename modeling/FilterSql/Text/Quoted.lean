import FilterSql.Text.Hidden

/-!
# FilterSql.Text.Quoted

Texts, lists and sets of texts as messages show them: `"a\tb"`, `["x", "y"]`, and a set between
braces with its members in ascending order.
-/

namespace FilterSql
namespace Text

/-- A quoted text escapes `"`, the backslash, and tab, line feed, carriage return and NUL by their
letters, and every other hidden character by its code point in hexadecimal. -/
def escape (c : Char) : List Char :=
  if c == '"' then ['\\', '"']
  else if c == '\\' then ['\\', '\\']
  else if c == '\t' then ['\\', 't']
  else if c == '\n' then ['\\', 'n']
  else if c == '\r' then ['\\', 'r']
  else if c == '\x00' then ['\\', '0']
  else if isHidden c then
    ['\\', 'u', Char.ofNat 0x7B] ++ Nat.toDigits 16 c.toNat ++ [Char.ofNat 0x7D]
  else [c]

def quoted (s : String) : String :=
  String.ofList ('"' :: s.toList.flatMap escape ++ ['"'])

def listText (items : List String) : String :=
  "[" ++ String.intercalate ", " (items.map quoted) ++ "]"

/-- Adds `x` to an ascending list without repetition; a member already there stays as it is. -/
def insertSorted (x : String) : List String → List String
  | [] => [x]
  | y :: r => if x == y then y :: r else if x < y then x :: y :: r else y :: insertSorted x r

/-- The members of a list, each once, by ascending code points. -/
def sortedSet (items : List String) : List String := items.foldr insertSorted []

def setText (items : List String) : String :=
  "\x7b" ++ String.intercalate ", " ((sortedSet items).map quoted) ++ "\x7d"

end Text
end FilterSql

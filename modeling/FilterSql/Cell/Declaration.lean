import FilterSql.Text.Cut

/-!
# FilterSql.Cell.Declaration

What an SQLite table declares of a column behind its name: words and quoted names that make up the
type, perhaps a size in parentheses, and constraints.

* `lexemes`: the text in pieces.
* `Declaration.ofText`: the type and the constraints.
* `Declaration.isBool`, `Declaration.prefersReal`: what the type means for the values.
* `Declaration.isRowNumber`: whether the column is the number of the row.
-/

namespace FilterSql
namespace Sqlite

/-! ## Lexemes -/

inductive LexemeKind where
  /-- Blanks, or a comment. -/
  | gap
  | word
  | quoted
  | mark
deriving DecidableEq

structure Lexeme where
  kind : LexemeKind
  text : List Char
deriving DecidableEq

/-- The blanks of SQL text. -/
def isBlank (c : Char) : Bool :=
  c == ' ' || c == '\t' || c == '\n' || c == '\x0c' || c == '\r'

/-- What a gap may begin with: a blank, or the byte order mark, which belongs to a word where one
has begun. -/
def isGap (c : Char) : Bool := isBlank c || c == '\uFEFF'

/-- Letters and digits, and all that is not ASCII. -/
def isWordChar (c : Char) : Bool := c.isAlphanum || c == '_' || c == '$' || 0x80 ≤ c.toNat

/-- The character that closes a quoted name, for one that opens it. -/
def closing? (c : Char) : Option Char :=
  if c == '[' then some ']'
  else if c == '"' || c == '\x27' || c == '\x60' then some c
  else none

def opensQuote (c : Char) : Bool := (closing? c).isSome

/-- The text behind a quoted name whose opening quote has been read. The closing character does not
close it where it stands twice. -/
def behindQuoted (close : Char) : List Char → List Char
  | [] | [_] => []
  | c :: d :: rest =>
    if c != close then behindQuoted close (d :: rest)
    else if d == close then behindQuoted close rest
    else d :: rest

/-- The kind of the first lexeme of a text, and the text behind it. -/
def cutLexeme? : List Char → Option (LexemeKind × List Char)
  | [] => none
  | '/' :: '*' :: rest => some (.gap, ((Text.cutText? ['*', '/'] rest).getD ([], [])).2)
  | '-' :: '-' :: rest => some (.gap, rest.dropWhile (· != '\n'))
  | c :: rest =>
    if isGap c then some (.gap, rest.dropWhile isBlank)
    else
      match closing? c with
      | some close => some (.quoted, behindQuoted close rest)
      | none => if isWordChar c then some (.word, rest.dropWhile isWordChar) else some (.mark, rest)

def lexemesFrom : Nat → List Char → List Lexeme
  | 0, _ => []
  | fuel + 1, s =>
    match cutLexeme? s with
    | none => []
    | some (kind, rest) => ⟨kind, s.take (s.length - rest.length)⟩ :: lexemesFrom fuel rest

/-- The lexemes of a text; each takes at least one character. -/
def lexemes (s : List Char) : List Lexeme := lexemesFrom s.length s

namespace Lexeme

def isWord (l : Lexeme) (name : String) : Bool :=
  l.kind == .word && Text.sameWord l.text name.toList

/-- The words that a constraint may begin with. -/
def constraintWords : List String :=
  ["as", "check", "collate", "constraint", "default", "deferrable", "not", "null", "primary",
   "references", "unique"]

/-- Whether the lexeme may stand in the name of a type. -/
def isTypePart (l : Lexeme) : Bool :=
  match l.kind with
  | .gap | .quoted => true
  | .word => constraintWords.all fun name => !l.isWord name
  | .mark => false

end Lexeme

/-! ## The type -/

/-- What stands between an opening quote and the character that closes it. -/
def insideQuotes (close : Char) : List Char → List Char
  | [] => []
  | [c] => if c == close then [] else [c]
  | c :: d :: rest =>
    if c != close then c :: insideQuotes close (d :: rest)
    else if d == close then close :: insideQuotes close rest
    else []

/-- The name between quotes. -/
def quotedName : List Char → List Char
  | [] => []
  | c :: rest => insideQuotes ((closing? c).getD c) rest

/-- A text that begins with a quote loses its first and its last character if no other quote opens
in between. -/
def withoutQuotes : List Char → List Char
  | [] => []
  | c :: rest =>
    if opensQuote c && !rest.dropLast.any opensQuote then rest.dropLast else c :: rest

/-- The name that the text of a type stands for: if it begins with a quote even so, what the first
quote encloses. -/
def typeName (s : List Char) : List Char :=
  let name := withoutQuotes s
  if name.head?.any opensQuote then quotedName name else name

/-- What stands in front of a word at the end of a text, without the blanks between them; case is
free, and the word need not stand alone. -/
def beforeLast? (word : String) (s : List Char) : Option (List Char) :=
  let before := s.take (s.length - word.length)
  if Text.sameWord (s.drop before.length) word.toList then
    some (before.reverse.dropWhile isBlank).reverse
  else none

/-- The text of a type without the words that announce a computed column. They are looked for only
in a text of 16 bytes or more, and the second of them is left out also without the first. -/
def withoutGenerated (s : List Char) : List Char :=
  if (String.ofList s).utf8ByteSize < 16 then s
  else
    match beforeLast? "always" s with
    | none => s
    | some rest => (beforeLast? "generated" rest).getD rest

/-- A size in parentheses, and what follows it. -/
def cutSize (ls : List Lexeme) : List Lexeme × List Lexeme :=
  match ls with
  | ⟨.mark, ['(']⟩ :: _ =>
    match ls.span fun l => l.text != [')'] with
    | (size, close :: rest) => (size ++ [close], rest)
    | parts => parts
  | _ => ([], ls)

/-- The words outside parentheses, of which `opened` are open in front. -/
def outerWords (opened : Nat) : List Lexeme → List Lexeme
  | [] => []
  | l :: rest =>
    if l.text == ['('] then outerWords (opened + 1) rest
    else if l.text == [')'] then outerWords (opened - 1) rest
    else if opened == 0 && l.kind == .word then l :: outerWords opened rest
    else outerWords opened rest

structure Declaration where
  /-- The text of the type; empty if there is none. -/
  written : List Char
  /-- The words of the constraints. -/
  constraints : List Lexeme

namespace Declaration

def ofText (text : String) : Declaration :=
  let isGap := fun (l : Lexeme) => l.kind == .gap
  let (names, rest) := ((lexemes text.toList).dropWhile isGap).span Lexeme.isTypePart
  let (size, rest) := cutSize rest
  let type := ((names ++ size).reverse.dropWhile isGap).reverse
  ⟨withoutGenerated (type.flatMap Lexeme.text), outerWords 0 rest⟩

/-- The name of the type. -/
def type (d : Declaration) : List Char := typeName d.written

/-- Whether the type is that of truth values. -/
def isBool (d : Declaration) : Bool :=
  Text.sameWord d.type "BOOLEAN".toList || Text.sameWord d.type "BOOL".toList

/-- Whether the column prefers floating-point numbers: the type is named for them, and no part of
its name is that of another kind. -/
def prefersReal (d : Declaration) : Bool :=
  let name := String.ofList (d.type.map Char.toLower)
  (["real", "floa", "doub"].any fun part => Text.occursIn part name) &&
    ["int", "char", "clob", "text", "blob"].all fun part => !Text.occursIn part name

/-- Whether a constraint refuses NULL. -/
def refusesNull (d : Declaration) : Bool :=
  (d.constraints.zip (d.constraints.drop 1)).any fun (first, second) =>
    first.isWord "not" && second.isWord "null"

/-- Whether a constraint makes the column the primary key. -/
def isKey (d : Declaration) : Bool := d.constraints.any fun l => l.isWord "primary"

/-- Whether the column is another name for the number of the row: the type is `INTEGER` and no other
name of integers, and the column is the primary key, not in descending order. -/
def isRowNumber (d : Declaration) : Bool :=
  Text.sameWord (withoutQuotes d.written) "INTEGER".toList &&
    match d.constraints.dropWhile fun l => !l.isWord "primary" with
    | [_, _] => true
    | _ :: _ :: order :: _ => !order.isWord "desc"
    | _ => false

end Declaration
end Sqlite
end FilterSql

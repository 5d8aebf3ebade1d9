import FilterSql.Text.Blank
import FilterSql.Text.Cut

/-!
# FilterSql.Filter.Operator

Comparison operators, and the keys of a filter: a column followed by an operator.

* A word operator (`LIKE`, `BETWEEN`, either behind `NOT`; ASCII case is free) stands behind
  blanks.
* A symbol operator may touch the column; the longer symbols are tried first.
* A key with neither compares for equality.
-/

namespace FilterSql

inductive Operator where
  | eq
  | ne
  | lt
  | le
  | gt
  | ge
  | like
  | notLike
  | between
  | notBetween
deriving DecidableEq

namespace Operator

def sql : Operator → String
  | .eq => "="
  | .ne => "<>"
  | .lt => "<"
  | .le => "<="
  | .gt => ">"
  | .ge => ">="
  | .like => "LIKE"
  | .notLike => "NOT LIKE"
  | .between => "BETWEEN"
  | .notBetween => "NOT BETWEEN"

/-- The word that tells a second parameter on a column from the first. -/
def role : Operator → String
  | .eq => "Equal"
  | .ne => "NotEqual"
  | .lt => "LessThan"
  | .le => "LessThanOrEqual"
  | .gt => "GreaterThan"
  | .ge => "GreaterThanOrEqual"
  | .like => "Like"
  | .notLike => "NotLike"
  | .between => "Between"
  | .notBetween => "NotBetween"

/-- The symbol operators in the order in which they are tried. -/
def symbols : List (List Char × Operator) :=
  [(['<', '='], .le), (['>', '='], .ge), (['!', '='], .ne), (['<', '>'], .ne), (['<'], .lt),
   (['>'], .gt)]

/-- The operators of a word, plain and behind `NOT`. -/
def ofWord? (word : List Char) : Option (Operator × Operator) :=
  if Text.sameWord word ['L', 'I', 'K', 'E'] then some (.like, .notLike)
  else if Text.sameWord word ['B', 'E', 'T', 'W', 'E', 'E', 'N'] then some (.between, .notBetween)
  else none

/-- The last word of a text and what stands before the blanks in front of it, if that is not
empty. -/
def splitLastWord? (s : List Char) : Option (List Char × List Char) :=
  match Text.cutLast? Text.isBlank (Text.trimEnd s) with
  | none => none
  | some (before, word) =>
    let head := Text.trimEnd before
    if head.isEmpty then none else some (head, word)

/-- The column and the operator of a key that ends in a word operator. -/
def splitWord? (key : List Char) : Option (List Char × Operator) :=
  match splitLastWord? key with
  | none => none
  | some (head, word) =>
    match ofWord? word with
    | none => none
    | some (plain, negated) =>
      match splitLastWord? head with
      | none => some (head, plain)
      | some (column, word) =>
        if Text.sameWord word ['N', 'O', 'T'] then some (column, negated) else some (head, plain)

/-- The column and the operator of a key that ends in a symbol. -/
def splitSymbol? (key : List Char) : Option (List Char × Operator) :=
  symbols.findSome? fun symbol => (Text.stripSuffix? symbol.1 key).map fun rest => (rest, symbol.2)

/-- The column, trimmed, and the operator of a key. -/
def splitChars (key : List Char) : List Char × Operator :=
  let key := Text.trim key
  match splitWord? key with
  | some (column, op) => (Text.trimEnd column, op)
  | none =>
    match splitSymbol? key with
    | some (column, op) => (Text.trimEnd column, op)
    | none => (key, .eq)

def splitKey (key : String) : String × Operator :=
  let parts := splitChars key.toList
  (String.ofList parts.1, parts.2)

end Operator

/-- The two directions of an ordering. -/
inductive SortOrder where
  | asc
  | desc
deriving DecidableEq

namespace SortOrder

def name : SortOrder → String
  | .asc => "asc"
  | .desc => "desc"

def sql : SortOrder → String
  | .asc => "ASC"
  | .desc => "DESC"

/-- ASCII case is free. -/
def ofText? (text : String) : Option SortOrder :=
  if Text.sameWord text.toList ['a', 's', 'c'] then some .asc
  else if Text.sameWord text.toList ['d', 'e', 's', 'c'] then some .desc
  else none

end SortOrder

/-- A column name without the table alias in front of its first point. -/
def baseColumn (column : String) : String :=
  match Text.cutFirst? (· == '.') column.toList with
  | some (_, name) => String.ofList name
  | none => column

end FilterSql

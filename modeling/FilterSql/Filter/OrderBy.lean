import FilterSql.Error
import FilterSql.Json.Parser
import FilterSql.Sql.Column

/-!
# FilterSql.Filter.OrderBy

Orderings of the rows and selections of the columns, and how JSON text writes them.
-/

namespace FilterSql

/-- Columns with directions, the first column first. -/
abbrev OrderBy := List (String × SortOrder)

namespace SortOrder

def parse (text : String) : Except Error SortOrder :=
  match ofText? text with
  | some order => .ok order
  | none => .error (.invalidArgument (.sortOrder text))

/-- A direction is its name in lower case, or an object whose only key is that name and holds
null. -/
def ofTree? : Json.Tree → Option SortOrder
  | .str (some "asc") => some .asc
  | .str (some "desc") => some .desc
  | .obj [(some "asc", .null)] => some .asc
  | .obj [(some "desc", .null)] => some .desc
  | _ => none

end SortOrder

namespace OrderBy

/-- Whether a column takes part in the ordering, under whatever alias. -/
def contains (order : OrderBy) (column : String) : Bool :=
  order.any fun entry => baseColumn entry.1 == baseColumn column

def pieces (order : OrderBy) : List Sql.Piece :=
  match order with
  | [] => []
  | order =>
    .text " ORDER BY " :: Sql.commaSeparated (order.map fun entry =>
      (ColumnRef.of .qualified entry.1).pieces ++ [.text (" " ++ entry.2.sql)])

def entry? : Json.Tree → Option (String × SortOrder)
  | .arr [.str (some column), direction] =>
    (SortOrder.ofTree? direction).map fun order => (column, order)
  | _ => none

/-- Reads a list of pairs of a column and a direction. -/
def parse? (text : String) : Option OrderBy :=
  match Json.Tree.ofText? text with
  | some (.arr items) => Json.listOf? entry? items
  | _ => none

end OrderBy

/-- The columns that a SELECT returns. -/
inductive Selection where
  /-- Every column of the main table. -/
  | all
  | columns (names : List String)
deriving DecidableEq

namespace Selection

/-- Whether a column of a selection is an expression, which is written as it stands. -/
def isExpression (column : String) : Bool :=
  column.toList.contains '(' || column.toList.any Text.isBlank || column == "*"

def columnPieces (column : String) : List Sql.Piece :=
  if isExpression column then [.text column] else (ColumnRef.of .qualified column).pieces

def pieces : Selection → List Sql.Piece
  | .all => [.name mainAlias, .text ".*"]
  | .columns names => Sql.commaSeparated (names.map columnPieces)

def toJson : Selection → Json
  | .all => .null
  | .columns names => .arr (names.map .str)

def name? : Json.Tree → Option String
  | .str name => name
  | _ => none

/-- Reads null for all columns, or a list of column names. -/
def parse? (text : String) : Option Selection :=
  match Json.Tree.ofText? text with
  | some .null => some .all
  | some (.arr items) => (Json.listOf? name? items).map .columns
  | _ => none

end Selection
end FilterSql

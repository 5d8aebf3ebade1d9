import FilterSql.Filter.Compile
import FilterSql.Filter.OrderBy

/-!
# FilterSql.Query.Select

SELECT queries, and the query that counts their rows.
-/

namespace FilterSql

structure SelectQuery where
  table : String
  columns : Selection
  conditions : List CompiledCondition
  /-- Groups that narrow the query beyond the filter, in the order in which they were added. -/
  extra : List Sql.Group
  orderBy : OrderBy
  groupBy : List String
  limit : Option Nat
  offset : Option Nat

/-- The name of the count in the result of a counting query. -/
def countColumn : String := "row_count"

namespace SelectQuery

def ofTable (table : String) : SelectQuery := ⟨table, .all, [], [], [], [], none, none⟩

def andWhere (q : SelectQuery) (group : Sql.Group) : SelectQuery :=
  { q with extra := q.extra ++ [group] }

def isGrouped (q : SelectQuery) : Bool := !q.groupBy.isEmpty

def groupByPieces (columns : List String) : List Sql.Piece :=
  match columns with
  | [] => []
  | columns =>
    .text " GROUP BY " ::
      Sql.commaSeparated (columns.map fun c => (ColumnRef.of .qualified c).pieces)

def countPieces (keyword : String) : Option Nat → List Sql.Piece
  | some n => [.text keyword, .bind (.count n)]
  | none => []

/-- All that follows the selection: table, filter, grouping, ordering and limits. -/
def tailPieces (q : SelectQuery) : List Sql.Piece :=
  [.text " FROM ", .name q.table, .text " AS ", .name mainAlias] ++
    Sql.wherePieces (CompiledCondition.groups q.conditions ++ q.extra) ++
    groupByPieces q.groupBy ++ q.orderBy.pieces ++
    countPieces " LIMIT " q.limit ++ countPieces " OFFSET " q.offset

def pieces (q : SelectQuery) : List Sql.Piece :=
  .text "SELECT " :: q.columns.pieces ++ q.tailPieces

def statement (q : SelectQuery) (dialect : Dialect) : Statement := .ofPieces dialect q.pieces

/-- The query that counts the rows of `q`: ordering and limits fall away. -/
def countingPieces (q : SelectQuery) (idColumn : String) : List Sql.Piece :=
  .text "SELECT COUNT(" :: (ColumnRef.of .qualified (qualify idColumn)).pieces ++
    [.text ") AS ", .name countColumn] ++
    { q with orderBy := [], limit := none, offset := none }.tailPieces

def countStatement (q : SelectQuery) (dialect : Dialect) (idColumn : String) : Statement :=
  .ofPieces dialect (q.countingPieces idColumn)

end SelectQuery
end FilterSql

import FilterSql.Proofs.Sql.Values
import FilterSql.Query.Select

/-!
# FilterSql.Proofs.Query.Values

The values of a SELECT in the order of its placeholders: the filter, the groups that were added, the
limits. Selection, grouping and ordering bind nothing.

* `SelectQuery.source`: what a query reads from, and under which condition.
* `SelectQuery.statement_sql`, `SelectQuery.countStatement_sql`: both statements have it in them.
-/

namespace FilterSql

open Sql (binds)

theorem Selection.binds_pieces (columns : Selection) : binds columns.pieces = [] := by
  cases columns with
  | all => rfl
  | columns names =>
    have h : ∀ name : String, binds (Selection.columnPieces name) = [] := by
      intro name
      unfold Selection.columnPieces
      split
      · rfl
      · exact Sql.binds_columnPieces _
    simp [Selection.pieces, Sql.commaSeparated, Sql.binds_separated, List.flatMap_map, h]

theorem OrderBy.binds_pieces (order : OrderBy) : binds order.pieces = [] := by
  cases order with
  | nil => rfl
  | cons entry rest =>
    simp [OrderBy.pieces, Sql.commaSeparated, Sql.binds_separated, List.flatMap_map]

theorem CompiledCondition.groups_values (conditions : List CompiledCondition) :
    (CompiledCondition.groups conditions).flatMap Sql.Group.values =
      conditions.flatMap fun c => c.atom.test.values := by
  simp [CompiledCondition.groups, List.flatMap_map, Sql.Group.values, Sql.Group.all,
    Sql.Clause.valuesAll, Sql.Clause.values]

namespace SelectQuery

theorem binds_groupByPieces (columns : List String) : binds (groupByPieces columns) = [] := by
  cases columns with
  | nil => rfl
  | cons column rest =>
    simp [groupByPieces, Sql.commaSeparated, Sql.binds_separated, List.flatMap_map]

theorem binds_countPieces (keyword : String) (n : Option Nat) :
    binds (countPieces keyword n) = (n.map Bound.count).toList := by
  cases n <;> rfl

theorem statement_args (q : SelectQuery) (dialect : Dialect) :
    (q.statement dialect).args =
      q.conditions.flatMap (fun c => c.atom.test.values) ++ q.extra.flatMap Sql.Group.values ++
        (q.limit.map Bound.count).toList ++ (q.offset.map Bound.count).toList := by
  simp [statement, Statement.ofPieces_args, pieces, tailPieces, Selection.binds_pieces,
    OrderBy.binds_pieces, binds_groupByPieces, binds_countPieces, Sql.binds_wherePieces,
    CompiledCondition.groups_values]

/-! ## Source -/

/-- FROM and WHERE. -/
def sourcePieces (q : SelectQuery) : List Sql.Piece :=
  [.text " FROM ", .name q.table, .text " AS ", .name mainAlias] ++
    Sql.wherePieces (CompiledCondition.groups q.conditions ++ q.extra)

def source (q : SelectQuery) (dialect : Dialect) : Statement := .ofPieces dialect q.sourcePieces

/-- What stands in front of the source. -/
def head (q : SelectQuery) (dialect : Dialect) : String :=
  (Statement.ofPieces dialect (.text "SELECT " :: q.columns.pieces)).sql

/-- Grouping, ordering and limits, with placeholders numbered from `n` on. -/
def tail (q : SelectQuery) (dialect : Dialect) (n : Nat) : String :=
  String.ofList (Sql.Piece.write dialect n (groupByPieces q.groupBy ++ q.orderBy.pieces ++
    countPieces " LIMIT " q.limit ++ countPieces " OFFSET " q.offset))

theorem source_args (q : SelectQuery) (dialect : Dialect) :
    (q.source dialect).args =
      q.conditions.flatMap (fun c => c.atom.test.values) ++ q.extra.flatMap Sql.Group.values := by
  simp [source, Statement.ofPieces_args, sourcePieces, Sql.binds_wherePieces,
    CompiledCondition.groups_values]

theorem statement_sql (q : SelectQuery) (dialect : Dialect) :
    (q.statement dialect).sql = q.head dialect ++ (q.source dialect).sql ++
      q.tail dialect ((q.source dialect).args.length + 1) := by
  have hpieces : q.pieces = (.text "SELECT " :: q.columns.pieces) ++ (q.sourcePieces ++
      (groupByPieces q.groupBy ++ q.orderBy.pieces ++ countPieces " LIMIT " q.limit ++
        countPieces " OFFSET " q.offset)) := by
    simp [pieces, tailPieces, sourcePieces]
  have hhead : binds (.text "SELECT " :: q.columns.pieces) = [] := Selection.binds_pieces q.columns
  rw [statement, hpieces, Statement.sql_ofPieces_append_of_binds hhead,
    Statement.sql_ofPieces_append, String.append_assoc]
  rfl

def countHeadPieces (idColumn : String) : List Sql.Piece :=
  .text "SELECT COUNT(" :: (ColumnRef.of .qualified (qualify idColumn)).pieces ++
    [.text ") AS ", .name countColumn]

/-- Ordering and limits fall away, so that nothing follows the source. -/
theorem countingPieces_eq {q : SelectQuery} (h : q.isGrouped = false) (idColumn : String) :
    q.countingPieces idColumn = countHeadPieces idColumn ++ q.sourcePieces := by
  have hgroup : q.groupBy = [] := by simpa [isGrouped] using h
  simp [countingPieces, countHeadPieces, tailPieces, sourcePieces, hgroup, groupByPieces,
    OrderBy.pieces, countPieces]

theorem binds_countHeadPieces (idColumn : String) : binds (countHeadPieces idColumn) = [] := by
  simp [countHeadPieces]

def countHead (dialect : Dialect) (idColumn : String) : String :=
  (Statement.ofPieces dialect (countHeadPieces idColumn)).sql

theorem countStatement_sql {q : SelectQuery} (h : q.isGrouped = false) (dialect : Dialect)
    (idColumn : String) : (q.countStatement dialect idColumn).sql =
      countHead dialect idColumn ++ (q.source dialect).sql := by
  rw [countStatement, countingPieces_eq h,
    Statement.sql_ofPieces_append_of_binds (binds_countHeadPieces idColumn)]
  rfl

theorem countStatement_args (q : SelectQuery) (dialect : Dialect) (idColumn : String) :
    (q.countStatement dialect idColumn).args = (q.source dialect).args := by
  simp [countStatement, source, Statement.ofPieces_args, countingPieces, tailPieces, sourcePieces,
    binds_groupByPieces, OrderBy.pieces, countPieces]

end SelectQuery
end FilterSql

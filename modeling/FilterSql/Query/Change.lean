import FilterSql.Filter.Compile

/-!
# FilterSql.Query.Change

UPDATE and DELETE queries.
-/

namespace FilterSql

structure Assignment where
  column : String
  /-- None is NULL. -/
  value : Option Bound
deriving DecidableEq

structure UpdateQuery where
  table : String
  assignments : List Assignment
  conditions : List CompiledCondition
  extra : List Sql.Group

namespace UpdateQuery

def ofTable (table : String) (conditions : List CompiledCondition) : UpdateQuery :=
  ⟨table, [], conditions, []⟩

def set (q : UpdateQuery) (column : String) (value : Option Bound) : UpdateQuery :=
  { q with assignments := q.assignments ++ [⟨column, value⟩] }

def andWhere (q : UpdateQuery) (group : Sql.Group) : UpdateQuery :=
  { q with extra := q.extra ++ [group] }

def assignmentPieces (a : Assignment) : List Sql.Piece :=
  .name (baseColumn a.column) :: .text " = " :: Sql.valuePieces a.value

def pieces (q : UpdateQuery) : List Sql.Piece :=
  [.text "UPDATE ", .name q.table, .text " SET "] ++
    Sql.commaSeparated (q.assignments.map assignmentPieces) ++
    Sql.wherePieces (CompiledCondition.groups q.conditions ++ q.extra)

def statement (q : UpdateQuery) (dialect : Dialect) : Statement := .ofPieces dialect q.pieces

end UpdateQuery

structure DeleteQuery where
  table : String
  conditions : List CompiledCondition
  extra : List Sql.Group

namespace DeleteQuery

def ofTable (table : String) (conditions : List CompiledCondition) : DeleteQuery :=
  ⟨table, conditions, []⟩

def andWhere (q : DeleteQuery) (group : Sql.Group) : DeleteQuery :=
  { q with extra := q.extra ++ [group] }

/-- An update of the same rows that sets nothing yet. -/
def toUpdate (q : DeleteQuery) : UpdateQuery := ⟨q.table, [], q.conditions, q.extra⟩

def pieces (q : DeleteQuery) : List Sql.Piece :=
  [.text "DELETE FROM ", .name q.table] ++
    Sql.wherePieces (CompiledCondition.groups q.conditions ++ q.extra)

def statement (q : DeleteQuery) (dialect : Dialect) : Statement := .ofPieces dialect q.pieces

end DeleteQuery
end FilterSql

import FilterSql.Error
import FilterSql.Sql.Statement

/-!
# FilterSql.Query.Insert

INSERT queries of any number of rows, which may update the rows they conflict with.
-/

namespace FilterSql

structure InsertQuery where
  table : String
  columns : List String
  /-- None is NULL. -/
  rows : List (List (Option Bound))
  /-- The column on which a conflict turns the insert of a row into an update. -/
  conflict : Option String

namespace InsertQuery

def ofTable (table : String) (columns : List String) (conflict : Option String) : InsertQuery :=
  ⟨table, columns, [], conflict⟩

/-- Adds a row, which has one value for each column. -/
def push (q : InsertQuery) (values : List (Option Bound)) : Except Error InsertQuery :=
  if values.length = q.columns.length then .ok { q with rows := q.rows ++ [values] }
  else .error (.invalidArgument (.rowWidth values.length q.columns.length))

def namePieces (columns : List String) : List Sql.Piece :=
  Sql.commaSeparated (columns.map fun c => [.name c])

def rowPieces (values : List (Option Bound)) : List Sql.Piece :=
  .text "(" :: Sql.commaSeparated (values.map Sql.valuePieces) ++ [.text ")"]

/-- Rows without columns are not written. -/
def valuesPieces (rows : List (List (Option Bound))) : List Sql.Piece :=
  match rows.filter fun row => !row.isEmpty with
  | [] => []
  | rows => .text " VALUES " :: Sql.commaSeparated (rows.map rowPieces)

/-- On a conflict every other column takes the value of the row that was to be inserted. -/
def conflictPieces (columns : List String) : Option String → List Sql.Piece
  | none => []
  | some target =>
    let updated := columns.filter fun c => c != target
    [.text " ON CONFLICT (", .name target, .text ")"] ++
      if updated.isEmpty then [.text " DO NOTHING"]
      else
        .text " DO UPDATE SET " :: Sql.commaSeparated (updated.map fun c =>
          [.name c, .text " = ", .name "excluded", .text ".", .name c])

def pieces (q : InsertQuery) : List Sql.Piece :=
  [.text "INSERT INTO ", .name q.table, .text " ("] ++ namePieces q.columns ++ [.text ")"] ++
    valuesPieces q.rows ++ conflictPieces q.columns q.conflict

def statement (q : InsertQuery) (dialect : Dialect) : Statement := .ofPieces dialect q.pieces

end InsertQuery
end FilterSql

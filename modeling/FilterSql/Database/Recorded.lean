import FilterSql.Cell.Postgres
import FilterSql.Database.Backend

/-!
# FilterSql.Database.Recorded

A PostgreSQL server whose results are recorded: the results that are left are its state, and every
statement takes the first of them. The columns of a table are rows of the catalog, asked for like
all else.
-/

namespace FilterSql

inductive ResultSet where
  | rows (columns : List Postgres.ResultColumn) (rows : List (List Postgres.Cell))
  | affected (count : Nat)
  | fail (error : DatabaseError)

/-- The constraint that a five-digit error code tells of. -/
def Constraint.ofCode : String → Constraint
  | "23505" => .unique
  | "23503" => .foreignKey
  | "23502" => .notNull
  | "23514" => .check
  | _ => .other

namespace ResultSet

/-- The rows that the catalog gives for a table: names, and `YES` or `NO`. -/
def ofCatalog (columns : List (String × String)) : ResultSet :=
  .rows [⟨"name", .text⟩, ⟨"nullable", .text⟩]
    (columns.map fun (name, nullable) => [.text name, .text nullable])

end ResultSet

namespace Recorded

def catalogQuery : String :=
  "SELECT column_name::text AS name, is_nullable::text AS nullable\n" ++
  "               FROM information_schema.columns\n" ++
  "               WHERE table_schema = current_schema() AND table_name = $1\n" ++
  "               ORDER BY ordinal_position"

/-- The text of the statement that a call sends. -/
def callText : Call → String
  | .fetch statement => statement.sql
  | .execute statement => statement.sql
  | .describe _ => catalogQuery

def fetch : Run (List ResultSet) (List Row)
  | [] => (.ok [], [])
  | .rows columns rows :: rest => (Postgres.decodeRows columns rows, rest)
  | .affected _ :: rest => (.ok [], rest)
  | .fail e :: rest => (.error (.backend (.database e)), rest)

def execute : Run (List ResultSet) ExecResult
  | [] => (.ok ⟨0, none⟩, [])
  | .rows _ rows :: rest => (.ok ⟨rows.length, none⟩, rest)
  | .affected count :: rest => (.ok ⟨count, none⟩, rest)
  | .fail e :: rest => (.error (.backend (.database e)), rest)

/-- The row of the catalog for a column; its other columns are not looked at. -/
def columnOf (columns : List Postgres.ResultColumn) (cells : List Postgres.Cell) :
    Except Error Column :=
  let cells := columns.zip cells
  match Postgres.textOf cells "name" with
  | .error e => .error e
  | .ok name =>
    match Postgres.textOf cells "nullable" with
    | .error e => .error e
    | .ok nullable => .ok ⟨name, nullable == "YES"⟩

def columnsOf (columns : List Postgres.ResultColumn) :
    List (List Postgres.Cell) → Except Error (List Column)
  | [] => .ok []
  | cells :: rest =>
    match columnOf columns cells with
    | .error e => .error e
    | .ok c =>
      match columnsOf columns rest with
      | .error e => .error e
      | .ok more => .ok (c :: more)

def describe : Run (List ResultSet) (List Column)
  | [] => (.ok [], [])
  | .rows columns rows :: rest => (columnsOf columns rows, rest)
  | .affected _ :: rest => (.ok [], rest)
  | .fail e :: rest => (.error (.backend (.database e)), rest)

def backend : Backend (List ResultSet) where
  dialect := .postgres
  fetch _ := fetch
  execute _ := execute
  describe _ := describe

end Recorded
end FilterSql

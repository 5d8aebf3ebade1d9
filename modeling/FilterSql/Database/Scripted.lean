import FilterSql.Database.Backend

/-!
# FilterSql.Database.Scripted

A database that interprets no statement: it gives prepared answers in their order.
-/

namespace FilterSql

inductive Answer where
  | rows (rows : List Row)
  | done (result : ExecResult)
  | fail (error : Error)

structure Script where
  /-- The answers to the statements to come. -/
  answers : List Answer
  /-- The error of every question for columns. -/
  describeError : Option Error
  tables : List (String × List Column)

namespace Script

/-- An answer that does not fit stands for no rows. -/
def fetch : Run Script (List Row) := fun script =>
  match script.answers with
  | [] => (.ok [], script)
  | .rows rows :: rest => (.ok rows, { script with answers := rest })
  | .done _ :: rest => (.ok [], { script with answers := rest })
  | .fail e :: rest => (.error e, { script with answers := rest })

/-- An answer that does not fit stands for a statement without effect. -/
def execute : Run Script ExecResult := fun script =>
  match script.answers with
  | [] => (.ok ⟨0, none⟩, script)
  | .rows _ :: rest => (.ok ⟨0, none⟩, { script with answers := rest })
  | .done result :: rest => (.ok result, { script with answers := rest })
  | .fail e :: rest => (.error e, { script with answers := rest })

def describe (table : String) : Run Script (List Column) := fun script =>
  match script.describeError with
  | some e => (.error e, script)
  | none => (.ok ((script.tables.lookup table).getD []), script)

def setTable (script : Script) (table : String) (columns : List Column) : Script :=
  { script with tables := (table, columns) :: script.tables }

def backend (dialect : Dialect) : Backend Script where
  dialect := dialect
  fetch _ := fetch
  execute _ := execute
  describe := describe

end Script
end FilterSql

import FilterSql.Cell.Declaration
import FilterSql.Database.Backend
import FilterSql.Database.BuiltIn
import FilterSql.Query.Select

/-!
# FilterSql.Database.InMemory

A SQLite database in memory that has just been opened. Nothing here makes a table, so there are only
those that every database has. Its catalog has no rows, nor have functions and settings that are
called without an argument they need; the answers of other settings are not known here and left out.

* `columnNames`: the columns that a statement names together with a table.
* `backend`: what the database answers.
-/

namespace FilterSql
namespace InMemory

/-- The pairs of names with a point between them, in the order of the text. -/
def columnNames : List Sqlite.Lexeme → List (List Char × List Char)
  | ⟨.quoted, table⟩ :: ⟨.mark, ['.']⟩ :: ⟨.quoted, column⟩ :: rest =>
    (Sqlite.quotedName table, Sqlite.quotedName column) :: columnNames rest
  | _ :: rest => columnNames rest
  | [] => []

def failure (message : String) : Error :=
  .backend (.database ⟨.other, some "1", s!"(code: 1) {message}"⟩)

/-- What a statement on a table fails with: there must be such a table, and the columns that the
statement names. A name without a table is taken for a text if it is no column. -/
def refusal? (table : String) (statement : Statement) : Option Error :=
  match BuiltIn.ofName? table with
  | none => some (failure s!"no such table: {table}")
  | some t =>
    let names := columnNames (Sqlite.lexemes statement.sql.toList)
    (names.find? fun name => !t.resolves name.1 name.2).map fun name =>
      failure s!"no such column: {String.ofList name.1}.{String.ofList name.2}"

/-- Whether a statement counts rows. -/
def counts (statement : Statement) : Bool :=
  (Sqlite.lexemes statement.sql.toList).any fun l => l.isWord "count"

def fetch (table : String) (statement : Statement) : Run Unit (List Row) :=
  match refusal? table statement with
  | some e => .fail e
  | none => pure (if counts statement then [[(countColumn, .ofNat 0)]] else [])

def execute (table : String) : Run Unit ExecResult :=
  match BuiltIn.ofName? table with
  | none => .fail (failure s!"no such table: {table}")
  | some _ => .fail (failure s!"table {table} may not be modified")

def describe (table : String) : List Column :=
  match BuiltIn.ofName? table with
  | none => []
  | some t => t.columns.map fun name => ⟨name, true⟩

/-- The database as the statements on one table find it. -/
def backend (table : String) : Backend Unit where
  dialect := .sqlite
  fetch := fetch table
  execute _ := execute table
  describe table := pure (describe table)

end InMemory
end FilterSql

import FilterSql.Sql.Statement
import FilterSql.Text.Cut

/-!
# FilterSql.Sql.Column

References to columns. A name is split at its first point into a table alias and the column.
-/

namespace FilterSql

/-- Whether references keep the table alias: statements on one table without an alias drop it. -/
inductive ColumnTarget where
  | qualified
  | unqualified
deriving DecidableEq

structure ColumnRef where
  qualifier : Option String
  name : String
deriving DecidableEq

namespace ColumnRef

def of (target : ColumnTarget) (column : String) : ColumnRef :=
  match Text.cutFirst? (· == '.') column.toList, target with
  | some (qualifier, name), .qualified => ⟨some (String.ofList qualifier), String.ofList name⟩
  | some (_, name), .unqualified => ⟨none, String.ofList name⟩
  | none, _ => ⟨none, column⟩

def pieces : ColumnRef → List Sql.Piece
  | ⟨some qualifier, name⟩ => [.name qualifier, .text ".", .name name]
  | ⟨none, name⟩ => [.name name]

end ColumnRef

/-- The alias under which a SELECT reads its table. -/
def mainAlias : String := "main"

/-- A column of the main table, unless the name has an alias already. -/
def qualify (column : String) : String :=
  if column.toList.contains '.' then column else mainAlias ++ "." ++ column

end FilterSql

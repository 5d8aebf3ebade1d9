import FilterSql.Modifier.Registry

/-!
# FilterSql.Modifier.SoftDelete

Rows of a table with a deletion column are marked instead of deleted, and marked rows stay out of
sight unless the filter itself asks about the column.
-/

namespace FilterSql

structure SoftDelete where
  column : String

namespace SoftDelete

def defaultColumn : String := "deleted_at"

def appliesTo (s : SoftDelete) (context : ModifierContext) : Bool :=
  context.columns.any fun t => t.contains s.column

/-- The rows that are not marked. -/
def alive (s : SoftDelete) : Sql.Group :=
  .all [.atom ⟨ColumnRef.of .qualified (mainAlias ++ "." ++ s.column), .null false⟩]

def modify (s : SoftDelete) (context : ModifierContext) (q : Query) : Query :=
  if !s.appliesTo context then q
  else
    match q with
    | .select q =>
      if CompiledCondition.references q.conditions s.column then .select q
      else .select (q.andWhere s.alive)
    | .delete q => .update (q.toUpdate.set s.column (some .now))
    | .update q => .update q

def modifier (s : SoftDelete) : Modifier where
  id := "soft_delete"
  modify context q := .ok (s.modify context q)

end SoftDelete
end FilterSql

/-!
# FilterSql.Schema.Column

What is known of a table: its columns in order, and which of them accept NULL.
-/

namespace FilterSql

structure Column where
  name : String
  nullable : Bool
deriving DecidableEq

structure TableColumns where
  table : String
  columns : List Column
deriving DecidableEq

namespace TableColumns

/-- The first column of that name. -/
def get? (t : TableColumns) (name : String) : Option Column :=
  t.columns.find? fun c => c.name == name

def contains (t : TableColumns) (name : String) : Bool := (t.get? name).isSome

/-- Whether a column accepts NULL; none if there is no such column. -/
def acceptsNull? (t : TableColumns) (name : String) : Option Bool :=
  (t.get? name).map Column.nullable

def names (t : TableColumns) : List String := t.columns.map Column.name

end TableColumns
end FilterSql

import FilterSql.Filter.Condition
import FilterSql.Filter.OrderBy
import FilterSql.Sql.Predicate

/-!
# FilterSql.Paging.Cursor

Where a page ends: the values of the last row in the columns of the ordering. The token of a
cursor is its compact JSON text.

* `SeekCursor.parse`, `SeekCursor.token`: reading and writing.
* `SeekCursor.after`: the rows that come after the cursor.
-/

namespace FilterSql

structure SeekCursor where
  values : Fields

namespace SeekCursor

def parse (text : String) : Except Error SeekCursor :=
  match Fields.parse? text with
  | some values => .ok ⟨values⟩
  | none => .error (.invalidArgument (.cursorText text))

def token (c : SeekCursor) : String := c.values.text

def get? (c : SeekCursor) (column : String) : Option Json := c.values.get? column

def size (c : SeekCursor) : Nat := c.values.length

def ofRowFrom (row : Row) (values : Fields) : List String → Except Error SeekCursor
  | [] => .ok ⟨values⟩
  | column :: rest =>
    match Fields.get? row column with
    | none => .error (.invalidArgument (.seekColumnMissing column))
    | some value =>
      if value.isNull then .error (.invalidArgument (.seekColumnNull column))
      else ofRowFrom row (values.insert column value) rest

/-- The values of a row in some columns; none may be NULL. -/
def ofRow (row : Row) (columns : List String) : Except Error SeekCursor :=
  ofRowFrom row [] columns

/-! ## Rows after a cursor -/

/-- The columns of an ordering under the names that rows have. -/
def names (ordering : OrderBy) : List String := ordering.map fun entry => baseColumn entry.1

/-- The columns of the cursor are those of the ordering. -/
def fits (c : SeekCursor) (ordering : OrderBy) : Bool :=
  c.size == ordering.length && (names ordering).all fun name => (c.get? name).isSome

def bounds (c : SeekCursor) : List String → Except Error (List Bound)
  | [] => .ok []
  | name :: rest =>
    match (c.get? name).getD .null with
    | .null => .error (.invalidArgument (.cursorNull name))
    | value =>
      match Bound.ofJson name value with
      | .error e => .error e
      | .ok value =>
        match bounds c rest with
        | .error e => .error e
        | .ok values => .ok (value :: values)

def compare (op : Sql.Comparison) (column : String) (value : Bound) : Sql.Clause :=
  .atom ⟨ColumnRef.of .qualified column, .compare op value⟩

/-- In an ascending column greater values come later, in a descending one smaller values. -/
def later : SortOrder → Sql.Comparison
  | .asc => .gt
  | .desc => .lt

/-- For each column: the columns before it are equal, and it comes later. -/
def branches (equal : List Sql.Clause) : List ((String × SortOrder) × Bound) → List Sql.Group
  | [] => []
  | ((column, order), value) :: rest =>
    .all (equal ++ [compare (later order) column value]) ::
      branches (equal ++ [compare .eq column value]) rest

/-- The rows that come after the cursor in an ordering: they come later in some column and are
equal in those before it. -/
def after (c : SeekCursor) (ordering : OrderBy) : Except Error Sql.Group :=
  if c.fits ordering then
    match c.bounds (names ordering) with
    | .error e => .error e
    | .ok values => .ok ((branches [] (ordering.zip values)).foldl Sql.Group.add (.any []))
  else .error (.invalidArgument (.cursorColumns c.token (names ordering)))

end SeekCursor
end FilterSql

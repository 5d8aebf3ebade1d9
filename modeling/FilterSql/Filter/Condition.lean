import FilterSql.Error
import FilterSql.Json.Parser
import FilterSql.Json.Printer
import FilterSql.Sql.Statement

/-!
# FilterSql.Filter.Condition

A filter is a map from keys to values; each key names a column and an operator, and a row must
meet every condition. Here are the conditions, and the values that can be bound to a placeholder.
-/

namespace FilterSql

/-- Keys with the values they compare with, in order. -/
abbrev Filter := Fields

structure Condition where
  key : String
  column : String
  operator : Operator
  value : Json

namespace Condition

def parse (key : String) (value : Json) : Except Error Condition :=
  let (column, operator) := Operator.splitKey key
  if column.isEmpty then .error (.invalidArgument (.keyWithoutColumn key))
  else .ok ⟨key, column, operator, value⟩

def base (c : Condition) : String := baseColumn c.column

/-- Only a condition on NULL depends on what the table is known to accept. -/
def needsNullability (c : Condition) : Bool := c.value.isNull

end Condition

/-- The conditions of a filter, or the error of the first key that names no column. -/
def Filter.conditions : Filter → Except Error (List Condition)
  | [] => .ok []
  | (key, value) :: rest =>
    match Condition.parse key value with
    | .error e => .error e
    | .ok c =>
      match Filter.conditions rest with
      | .error e => .error e
      | .ok cs => .ok (c :: cs)

namespace Bound

/-- The bound form of one value. An object is bound as its compact text. -/
def ofJson (column : String) : Json → Except Error Bound
  | .str s => .ok (.text s)
  | .bool b => .ok (.bool b)
  | .num (.int n) =>
    if n ≤ Decimal.maxSigned64 then .ok (.int n)
    else .error (.invalidArgument (.integerTooLarge n column))
  | .num (.float x) => .ok (.double x)
  | .obj fields => .ok (.text (Json.obj fields).text)
  | .arr _ => .error (.invalidArgument (.nestedArray column))
  | .null => .error (.invalidArgument (.nullBound column))

def ofItems (column : String) : List Json → Except Error (List Bound)
  | [] => .ok []
  | item :: rest =>
    match ofJson column item with
    | .error e => .error e
    | .ok value =>
      match ofItems column rest with
      | .error e => .error e
      | .ok values => .ok (value :: values)

/-- A value that is written to a column: NULL is a keyword and binds nothing. -/
def ofCell (column : String) : Json → Except Error (Option Bound)
  | .null => .ok none
  | value =>
    match ofJson column value with
    | .error e => .error e
    | .ok value => .ok (some value)

end Bound
end FilterSql

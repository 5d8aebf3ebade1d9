import FilterSql.Json.Parser
import FilterSql.Schema.Column

/-!
# FilterSql.Schema.Reading

Column metadata as JSON text. A record is an object with its fields in any order, or the list of
its fields in their own order; a known field that stands twice is an error. Fields that are not
known are passed over: their values have to follow the grammar, but may be nested to any depth and
need not have a value. A column that does not say otherwise refuses NULL.
-/

namespace FilterSql

open Json (Tree)

/-- The field of a record that stands at most once: none if it stands twice, `some none` if it is
absent. -/
def Json.Tree.single? (fields : List (String × Tree)) (key : String) : Option (Option Tree) :=
  match fields.filter fun field => field.1 == key with
  | [] => some none
  | [(_, value)] => some (some value)
  | _ => none

namespace Column

def toJson (c : Column) : Json := .obj [("name", .str c.name), ("nullable", .bool c.nullable)]

def ofFields? (fields : List (String × Tree)) : Option Column :=
  match Tree.single? fields "name", Tree.single? fields "nullable" with
  | some (some (.str (some name))), some none => some ⟨name, false⟩
  | some (some (.str (some name))), some (some (.bool nullable)) => some ⟨name, nullable⟩
  | _, _ => none

def ofTree? : Tree → Option Column
  | .arr [.str (some name)] => some ⟨name, false⟩
  | .arr [.str (some name), .bool nullable] => some ⟨name, nullable⟩
  | .obj fields => (Tree.keyed? fields).bind ofFields?
  | _ => none

end Column

namespace TableColumns

def toJson (t : TableColumns) : Json :=
  .obj [("table", .str t.table), ("columns", .arr (t.columns.map Column.toJson))]

def ofParts? : Tree → Tree → Option TableColumns
  | .str (some table), .arr items =>
    (Json.listOf? Column.ofTree? items).map fun columns => ⟨table, columns⟩
  | _, _ => none

def ofFields? (fields : List (String × Tree)) : Option TableColumns :=
  match Tree.single? fields "table", Tree.single? fields "columns" with
  | some (some table), some (some columns) => ofParts? table columns
  | _, _ => none

def ofTree? : Tree → Option TableColumns
  | .arr [table, columns] => ofParts? table columns
  | .obj fields => (Tree.keyed? fields).bind ofFields?
  | _ => none

def parse? (text : String) : Option TableColumns := (Tree.ofText? text).bind ofTree?

end TableColumns
end FilterSql

import FilterSql.Database.Recorded

/-!
# FilterSql.Database.Recording

Recorded results as JSON.

* `{"columns": [[name, type], …], "rows": [[cell, …], …]}`: rows; a cell is null or one of
  `{"int": n}`, `{"bits": hex}`, `{"interval": [months, days, µs]}`, `{"text": s}`,
  `{"hex": bytes}`.
* `{"catalog": [[name, nullable], …]}`: the columns of a table.
* `{"affected": n}`: the number of changed rows.
* `{"fail": {"code": c, "message": m}}`: an error.
-/

namespace FilterSql

namespace Recording

def pair? : Json → Option (String × String)
  | .arr [.str a, .str b] => some (a, b)
  | _ => none

def cell? : Json → Option Postgres.Cell
  | .null => some .null
  | .obj [("int", .num (.int n))] => some (.int n)
  | .obj [("bits", .str s)] => (Text.natOfHex? s.toList).map .bits
  | .obj [("interval", .arr [.num (.int months), .num (.int days), .num (.int micros)])] =>
    some (.interval ⟨months, days, micros⟩)
  | .obj [("text", .str s)] => some (.text s)
  | .obj [("hex", .str s)] => (Text.bytesOfHex? s.toList).map .bytes
  | _ => none

def cells? : Json → Option (List Postgres.Cell)
  | .arr items => Json.listOf? cell? items
  | _ => none

def column (pair : String × String) : Postgres.ResultColumn := ⟨pair.1, .ofName pair.2⟩

def textField (fields : Fields) (key : String) : String :=
  match fields.get? key with
  | some (.str s) => s
  | _ => ""

def failure (fields : Fields) : DatabaseError :=
  ⟨.ofCode (textField fields "code"), some (textField fields "code"), textField fields "message"⟩

/-- The items of a list; an absent list is empty. -/
def itemsField (fields : Fields) (key : String) : List Json :=
  match fields.get? key with
  | some (.arr items) => items
  | _ => []

def rowsOf? (fields : Fields) : Option ResultSet :=
  match Json.listOf? pair? (itemsField fields "columns"),
    Json.listOf? cells? (itemsField fields "rows") with
  | some columns, some rows => some (.rows (columns.map column) rows)
  | _, _ => none

end Recording

def ResultSet.ofJson? : Json → Option ResultSet
  | .obj fields =>
    match Fields.get? fields "fail", Fields.get? fields "affected",
      Fields.get? fields "catalog" with
    | some (.obj error), _, _ => some (.fail (Recording.failure error))
    | _, some (.num n), _ => n.natural?.map .affected
    | _, _, some (.arr items) => (Json.listOf? Recording.pair? items).map .ofCatalog
    | _, _, _ => Recording.rowsOf? fields
  | _ => none

end FilterSql

import FilterSql.Cell.Declaration
import FilterSql.Json.Basic
import FilterSql.Schema.Column
import FilterSql.Text.Bytes

/-!
# FilterSql.Cell.Sqlite

Rows as SQLite stores them. A value has its own storage class, whatever type its column is
declared with; the declaration tells whether an integer is a truth value, and whether zero can be
negative. Every row has a number, which a column may show.

* `Cell.toJson`, `decodeRow`: what is read.
* `Table.insert`, `Table.decoded`: rows that are stored and read again.
-/

namespace FilterSql
namespace Sqlite

inductive Cell where
  | null
  | int (value : Int)
  | real (value : Double)
  | text (value : String)
  | blob (bytes : List UInt8)
deriving DecidableEq

/-- A column that prefers floating-point numbers keeps those without a fraction as integers, among
which there is no negative zero. -/
def kept (declared : Declaration) (x : Double) : Double :=
  if declared.prefersReal && x.isZero then ⟨0⟩ else x

/-- Bytes are written in base 64; a number that is not finite becomes null. -/
def Cell.toJson (declared : Declaration) : Cell → Json
  | .null => .null
  | .int n => if declared.isBool then .bool (n != 0) else .ofInt n
  | .real x => if x.isFinite then .num (.float (kept declared x)) else .null
  | .text s => .str s
  | .blob bytes => .str (String.ofList (Text.base64 bytes))

/-- A row from the columns, by name and declaration, and their cells. Of two columns of one name the
last gives the value. -/
def decodeRow (columns : List (String × Declaration)) (cells : List Cell) : Row :=
  Fields.ofList ((columns.zip cells).map fun ((name, declared), cell) =>
    (name, cell.toJson declared))

/-! ## Tables -/

structure Table where
  columns : List (String × Declaration)
  /-- The rows with their numbers, in the order of these. -/
  rows : List (Int × List Cell)

namespace Table

def ofColumns (columns : List (String × Declaration)) : Table := ⟨columns, []⟩

/-- Rows are numbered from one; later ones follow the greatest number. -/
def nextNumber (t : Table) : Int :=
  match t.rows.getLast? with
  | none => 1
  | some (number, _) => number + 1

/-- The number of a row to come: a column that is the number may give it. -/
def numberOf (t : Table) (cells : List Cell) : Int :=
  match (t.columns.zip cells).find? fun entry => entry.1.2.isRowNumber with
  | some (_, .int n) => n
  | _ => t.nextNumber

/-- The cells of a row as they are stored. -/
def numbered (t : Table) (number : Int) (cells : List Cell) : List Cell :=
  (t.columns.zip cells).map fun (column, cell) =>
    if column.2.isRowNumber then .int number else cell

def place (number : Int) (cells : List Cell) : List (Int × List Cell) → List (Int × List Cell)
  | [] => [(number, cells)]
  | row :: rest =>
    if number < row.1 then (number, cells) :: row :: rest else row :: place number cells rest

/-- The number of the new row, and the table with it. -/
def insert (t : Table) (cells : List Cell) : Int × Table :=
  let number := t.numberOf cells
  (number, { t with rows := place number (t.numbered number cells) t.rows })

/-- The numbers of rows that are inserted one after another, and the table with them. -/
def insertAll (t : Table) : List (List Cell) → List Int × Table
  | [] => ([], t)
  | cells :: rest =>
    let (number, t) := t.insert cells
    let (numbers, t) := insertAll t rest
    (number :: numbers, t)

def decoded (t : Table) : List Row := t.rows.map fun row => decodeRow t.columns row.2

end Table

/-! ## Columns -/

structure DeclaredColumn where
  name : String
  declared : Declaration
  /-- Whether the table says so besides what is declared behind the name. -/
  notNull : Bool
  primaryKey : Bool

/-- Neither a column that refuses NULL nor one of the primary key counts as accepting it. -/
def DeclaredColumn.column (c : DeclaredColumn) : Column :=
  ⟨c.name, [c.notNull, c.primaryKey, c.declared.refusesNull, c.declared.isKey].all fun b => !b⟩

end Sqlite
end FilterSql

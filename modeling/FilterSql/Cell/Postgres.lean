import FilterSql.Cell.Calendar
import FilterSql.Cell.Interval
import FilterSql.Cell.Numeric
import FilterSql.Error
import FilterSql.Json.Parser
import FilterSql.Text.Bytes

/-!
# FilterSql.Cell.Postgres

Rows as PostgreSQL returns them: every column has a type, and every cell is null or a value in the
form of that type.

* `ColumnType.ofName`: the types that are known.
* `Cell.toJson?`: the JSON value of one cell.
* `decodeRow`: a whole row. A column finds its value by name, and of several columns of one name
  it finds the last, so the types of both have to agree.
* `textOf`: one column of a row, as text.
-/

namespace FilterSql
namespace Postgres

inductive ColumnType where
  | bool
  | int2
  | int4
  | int8
  | float4
  | float8
  | json
  | jsonb
  | uuid
  | timestampUtc
  | timestamp
  | date
  | time
  | interval
  | numeric
  | bytes
  | text
  /-- The type of a literal that has no type yet. -/
  | unknown
  | other (name : String)
deriving DecidableEq

/-- ASCII case is free. The name of a type that is not known is kept in upper case. -/
def ColumnType.ofName (name : String) : ColumnType :=
  match String.ofList (name.toList.map Char.toUpper) with
  | "BOOL" => .bool
  | "INT2" => .int2
  | "INT4" => .int4
  | "INT8" => .int8
  | "FLOAT4" => .float4
  | "FLOAT8" => .float8
  | "JSON" => .json
  | "JSONB" => .jsonb
  | "UUID" => .uuid
  | "TIMESTAMPTZ" => .timestampUtc
  | "TIMESTAMP" => .timestamp
  | "DATE" => .date
  | "TIME" => .time
  | "INTERVAL" => .interval
  | "NUMERIC" => .numeric
  | "BYTEA" => .bytes
  | "TEXT" | "VARCHAR" | "BPCHAR" | "CHAR" | "NAME" | "CITEXT" => .text
  | "UNKNOWN" => .unknown
  | name => .other name

/-- The form in which the server sends a value. -/
inductive Cell where
  | null
  | int (value : Int)
  /-- The bits of a floating-point number. -/
  | bits (value : Nat)
  | interval (value : Interval)
  | text (value : String)
  | bytes (value : List UInt8)
deriving DecidableEq

namespace Cell

def text? : Cell → Option String
  | .text s => some s
  | .bytes b => Text.ofUtf8? b
  | _ => none

def ofChars (s : List Char) : Json := .str (String.ofList s)

/-- A number that is not finite becomes null. -/
def ofDouble (x : Double) : Json := if x.isFinite then .num (.float x) else .null

/-- Thirty-two digits in groups of 8, 4, 4, 4 and 12. -/
def uuidChars (bytes : List UInt8) : List Char :=
  let part (start count : Nat) : List Char := Text.hexOfBytes ((bytes.drop start).take count)
  part 0 4 ++ '-' :: part 4 2 ++ '-' :: part 6 2 ++ '-' :: part 8 2 ++ '-' :: part 10 6

/-- Whether a cell of a type is beyond all that can be read: a day that the calendar does not have,
or the bytes of a JSONB value without the version that they begin with. -/
def isOutOfRange : ColumnType → Cell → Bool
  | .date, .int n => !Date.isInCalendar n
  | .timestampUtc, .int n | .timestamp, .int n => !Date.isInCalendar (Instant.day n)
  | .jsonb, .bytes b => b.head? != some 1
  | _, _ => false

/-- The JSON value of a cell; none if it is no value of the type. Types that are not known are read
as text. -/
def toJson? : ColumnType → Cell → Option Json
  | _, .null => some .null
  | .bool, .int n => some (.bool (n != 0))
  | .int2, .int n | .int4, .int n | .int8, .int n => some (.ofInt n)
  | .float4, .bits b => some (ofDouble (Double.ofSingle (UInt32.ofNat b)))
  | .float8, .bits b => some (ofDouble ⟨UInt64.ofNat b⟩)
  | .jsonb, .bytes b => (Text.ofUtf8? (b.drop 1)).bind Json.parse?
  | .json, cell | .jsonb, cell => cell.text?.bind Json.parse?
  | .uuid, .bytes b => if b.length = 16 then some (ofChars (uuidChars b)) else none
  | .timestampUtc, .int n | .timestamp, .int n => some (ofChars (Instant.chars n))
  | .date, .int n => some (ofChars (Date.ofDays n).chars)
  | .time, .int n => some (ofChars (TimeOfDay.chars n))
  | .interval, .interval i => some (ofChars i.chars)
  | .numeric, .text s =>
    ((Numeric.parse? s.toList).bind Numeric.bounded?).map fun n => ofChars n.chars
  | .bytes, .bytes b => some (ofChars (Text.base64 b))
  | .text, cell | .unknown, cell | .other _, cell => cell.text?.map .str
  | _, _ => none

end Cell

/-! ## Rows -/

structure ResultColumn where
  name : String
  type : ColumnType
deriving DecidableEq

/-- Whether a value of type `source` can be taken for one of type `target`. -/
def agrees (target source : ColumnType) : Bool :=
  match target with
  | .text | .unknown | .other _ => source == .text || source == .unknown
  | .json | .jsonb => source == .json || source == .jsonb
  | target => target == source

/-- The last column of a name, and its cell. -/
def lookup? (cells : List (ResultColumn × Cell)) (name : String) : Option (ResultColumn × Cell) :=
  cells.reverse.find? fun entry => entry.1.name == name

/-- What the reading of a column fails with. -/
def failure (column : ResultColumn) : Error :=
  match column.type with
  | .unknown => .unsupportedType column.name "UNKNOWN"
  | .other name => .unsupportedType column.name name
  | _ => .backend .undecodable

/-- The value of a column in a row, read in the form of the column that gives it. A null is of every
type. -/
def decodeColumn (cells : List (ResultColumn × Cell)) (column : ResultColumn) :
    Except Error Json :=
  match lookup? cells column.name with
  | none => .error (.backend (.columnNotFound column.name))
  | some (_, .null) => .ok .null
  | some (source, cell) =>
    if !agrees column.type source.type then .error (failure column)
    else if cell.isOutOfRange source.type then .error (.backend .outOfRange)
    else
      match cell.toJson? source.type with
      | some v => .ok v
      | none => .error (failure column)

/-- The value of a column of a name as text, whatever the other columns hold. -/
def textOf (cells : List (ResultColumn × Cell)) (name : String) : Except Error String :=
  match lookup? cells name with
  | none => .error (.backend (.columnNotFound name))
  | some (source, cell) =>
    match agrees .text source.type, cell.text? with
    | true, some s => .ok s
    | _, _ => .error (.backend .undecodable)

def decodeFrom (cells : List (ResultColumn × Cell)) (row : Row) :
    List ResultColumn → Except Error Row
  | [] => .ok row
  | column :: rest =>
    match decodeColumn cells column with
    | .error e => .error e
    | .ok v => decodeFrom cells (Fields.insert row column.name v) rest

def decodeRow (columns : List ResultColumn) (cells : List Cell) : Except Error Row :=
  decodeFrom (columns.zip cells) [] columns

def decodeRows (columns : List ResultColumn) : List (List Cell) → Except Error (List Row)
  | [] => .ok []
  | cells :: rest =>
    match decodeRow columns cells with
    | .error e => .error e
    | .ok row =>
      match decodeRows columns rest with
      | .error e => .error e
      | .ok rows => .ok (row :: rows)

end Postgres
end FilterSql

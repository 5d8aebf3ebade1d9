import FilterSql.Decimal.Double

/-!
# FilterSql.Sql.Statement

A statement is a list of pieces: fixed text, quoted names and bound values. The text of the
statement and the list of its values are both read off the pieces, so that a value never gets into
the text and the values stand in the order of their placeholders.
-/

namespace FilterSql

inductive Dialect where
  | sqlite
  | postgres
deriving DecidableEq

/-- Whether an insert tells the id of the row it added last. -/
def Dialect.reportsLastInsertId : Dialect → Bool
  | .sqlite => true
  | .postgres => false

/-- A value bound to a placeholder. -/
inductive Bound where
  | bool (value : Bool)
  /-- A signed integer of 64 bits. -/
  | int (value : Int)
  /-- A row count of 64 bits. -/
  | count (value : Nat)
  /-- A constant that no caller gave. -/
  | literal (value : Nat)
  | text (value : String)
  | double (value : Double)
  /-- The current time. -/
  | now
deriving DecidableEq

structure Statement where
  sql : String
  args : List Bound
deriving DecidableEq

namespace Sql

inductive Piece where
  | text (s : String)
  | name (s : String)
  | bind (value : Bound)
deriving DecidableEq

/-- A name between quotes; a quote inside is doubled. -/
def quoteName (s : String) : List Char :=
  '"' :: s.toList.flatMap (fun c => if c == '"' then ['"', '"'] else [c]) ++ ['"']

/-- The `n`-th placeholder, counted from one. -/
def placeholder : Dialect → Nat → List Char
  | .sqlite, _ => ['?']
  | .postgres, n => '$' :: Nat.toDigits 10 n

namespace Piece

def bound? : Piece → Option Bound
  | .bind value => some value
  | _ => none

/-- The text of the pieces when the next placeholder is the `n`-th. -/
def write (dialect : Dialect) : Nat → List Piece → List Char
  | _, [] => []
  | n, .text s :: rest => s.toList ++ write dialect n rest
  | n, .name s :: rest => quoteName s ++ write dialect n rest
  | n, .bind _ :: rest => placeholder dialect n ++ write dialect (n + 1) rest

end Piece

/-- The lists one after another with a separator between them. -/
def separated (separator : String) : List (List Piece) → List Piece
  | [] => []
  | [pieces] => pieces
  | pieces :: rest => pieces ++ .text separator :: separated separator rest

def commaSeparated (lists : List (List Piece)) : List Piece := separated ", " lists

/-- A bound value, or the keyword for NULL. -/
def valuePieces : Option Bound → List Piece
  | some value => [.bind value]
  | none => [.text "NULL"]

end Sql

def Statement.ofPieces (dialect : Dialect) (pieces : List Sql.Piece) : Statement where
  sql := String.ofList (Sql.Piece.write dialect 1 pieces)
  args := pieces.filterMap Sql.Piece.bound?

end FilterSql

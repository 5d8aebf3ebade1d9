import FilterSql.Database.Basic
import FilterSql.Query.Insert

/-!
# FilterSql.Database.Bulk

Many rows at once. Inserts are planned as a whole before the first statement is sent, so that a
value that cannot be bound stops them all; a statement that fails leaves the earlier ones done.

* `Database.insertPlan`: the statements that insert the rows.
* `Database.runInserts`: sends them one after another, up to the first failure.
-/

namespace FilterSql

/-- A list cut into parts of `n` members, and a last part of what is left. -/
def chunks {α : Type} (n : Nat) : List α → List (List α)
  | [] => []
  | x :: rest => (x :: rest.take (n - 1)) :: chunks n (rest.drop (n - 1))
termination_by items => items.length
decreasing_by simp only [List.length_drop, List.length_cons]; omega

/-- As many rows as both limits allow, but at least one. -/
def Settings.batchSize (settings : Settings) (columns : Nat) : Nat :=
  max 1 (min settings.maxBatchRows (settings.maxBindParams / max 1 columns))

namespace Database

/-! ## The plan -/

def sameKeys (a b : List String) : Bool := a.all b.contains && b.all a.contains

/-- Every row has the columns of the first, in whatever order. -/
def checkColumns (columns : List String) : Nat → List Row → Except Error Unit
  | _, [] => .ok ()
  | index, row :: rest =>
    if sameKeys (Fields.keys row) columns then checkColumns columns (index + 1) rest
    else .error (.invalidArgument (.rowColumns index (Fields.keys row) columns))

/-- The values of a row in the order of the columns. -/
def cells (row : Row) : List String → Except Error (List (Option Bound))
  | [] => .ok []
  | column :: rest =>
    match Bound.ofCell column ((Fields.get? row column).getD .null) with
    | .error e => .error e
    | .ok value =>
      match cells row rest with
      | .error e => .error e
      | .ok values => .ok (value :: values)

def cellRows (columns : List String) : List Row → Except Error (List (List (Option Bound)))
  | [] => .ok []
  | row :: rest =>
    match cells row columns with
    | .error e => .error e
    | .ok values =>
      match cellRows columns rest with
      | .error e => .error e
      | .ok more => .ok (values :: more)

/-- The inserts in their order; the first row gives the columns. With `upsert` a row whose id is
there already is updated. -/
def insertPlan {σ : Type} (db : Database σ) (table : String) (rows : List Row) (upsert : Bool) :
    Except Error (List InsertQuery) :=
  match rows with
  | [] => .ok []
  | first :: _ =>
    let columns := Fields.keys first
    if columns.isEmpty then .error (.invalidArgument .rowsWithoutColumns)
    else
      match checkColumns columns 0 rows with
      | .error e => .error e
      | .ok _ =>
        match cellRows columns rows with
        | .error e => .error e
        | .ok values =>
          let conflict := if upsert then some db.settings.idColumn else none
          .ok ((chunks (db.settings.batchSize columns.length) values).map fun batch =>
            { InsertQuery.ofTable table columns conflict with rows := batch })

/-! ## Running it -/

/-- A duplicate key is a violation of the table's constraint; all else stays as it is. -/
def violation (table : String) : Error → Error
  | .backend source =>
    if source.isDuplicate then .constraintViolation table source else .backend source
  | e => e

/-- The outcome of two statements; an id is the last that was told. -/
def ExecResult.plus (dialect : Dialect) (done next : ExecResult) : ExecResult where
  rowsAffected := done.rowsAffected + next.rowsAffected
  lastInsertId :=
    if dialect.reportsLastInsertId then next.lastInsertId.or done.lastInsertId
    else done.lastInsertId

def runInserts {σ : Type} (db : Database σ) (table : String) (done : ExecResult) :
    List InsertQuery → Run (Session σ) ExecResult
  | [] => pure done
  | q :: rest => do
    let result ← (db.sendExecute (q.statement db.dialect)).mapError (violation table)
    db.runInserts table (ExecResult.plus db.dialect done result) rest

def insertAll {σ : Type} (db : Database σ) (table : String) (rows : List Row) (upsert : Bool) :
    Run (Session σ) ExecResult := do
  let plan ← .ofExcept (db.insertPlan table rows upsert)
  db.runInserts table ⟨0, none⟩ plan

/-- The number of rows inserted. -/
def insertRows {σ : Type} (db : Database σ) (table : String) (rows : List Row) :
    Run (Session σ) Nat := do
  let result ← db.insertAll table rows false
  return result.rowsAffected

def upsertRows {σ : Type} (db : Database σ) (table : String) (rows : List Row) :
    Run (Session σ) ExecResult :=
  db.insertAll table rows true

/-- The number of rows updated. -/
def updateRows {σ : Type} (db : Database σ) (table : String) (values : Fields) (filter : Filter) :
    Run (Session σ) Nat := do
  let q ← db.update table values filter
  db.execute (.update q)

/-- The number of rows deleted, or updated if a modifier wants that instead. -/
def deleteRows {σ : Type} (db : Database σ) (table : String) (filter : Filter) :
    Run (Session σ) Nat := do
  let q ← db.delete table filter
  db.execute q

end Database
end FilterSql

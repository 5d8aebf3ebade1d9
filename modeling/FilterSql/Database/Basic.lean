import FilterSql.Config
import FilterSql.Database.Backend
import FilterSql.Modifier.Registry

/-!
# FilterSql.Database.Basic

A database with the settings and the modifiers for queries on it.

* `refreshColumns`, `columns`: what is known of a table; only a look at the cache that misses asks
  the backend.
* `compileFilter`: the conditions of a filter; the columns are asked for only if a condition on
  NULL needs them.
* `select`, `update`, `delete`: queries from filters, after the modifiers.
* `count`, `fetch`, `execute`: running them.
-/

namespace FilterSql

structure Settings where
  /-- The most rows, and the most bound values, of one insert. -/
  maxBatchRows : Nat
  maxBindParams : Nat
  idColumn : String
deriving DecidableEq

def Config.settings (config : Config) : Settings :=
  ⟨config.maxBatchRows, config.maxBindParams, config.idColumn⟩

structure Database (σ : Type) where
  backend : Backend σ
  settings : Settings
  modifiers : ModifierRegistry

namespace Database

def dialect {σ : Type} (db : Database σ) : Dialect := db.backend.dialect

/-! ## Columns -/

/-- Asks the backend; a table without columns does not exist. -/
def refreshColumns {σ : Type} (db : Database σ) (table : String) :
    Run (Session σ) TableColumns := do
  match ← Session.send (.describe table) (db.backend.describe table) with
  | [] => .reject (.unknownTable table)
  | columns =>
    Session.remember ⟨table, columns⟩
    return ⟨table, columns⟩

def columns {σ : Type} (db : Database σ) (table : String) : Run (Session σ) TableColumns := do
  match ← Session.known? table with
  | some columns => return columns
  | none => db.refreshColumns table

/-! ## Queries -/

def modify {σ : Type} (db : Database σ) (q : Query) : Run (Session σ) Query :=
  if db.modifiers.isEmpty then pure q
  else do
    let columns ← db.columns q.table
    .ofExcept (db.modifiers.apply ⟨q.table, some columns⟩ q)

def compileFilter {σ : Type} (db : Database σ) (table : String) (filter : Filter)
    (target : ColumnTarget) : Run (Session σ) (List CompiledCondition) := do
  let conditions ← .ofExcept filter.conditions
  if conditions.any Condition.needsNullability then
    let columns ← db.columns table
    .ofExcept (compile conditions (some columns) target)
  else .ofExcept (compile conditions none target)

def select {σ : Type} (db : Database σ) (table : String) (columns : Selection) (filter : Filter)
    (orderBy : OrderBy) : Run (Session σ) SelectQuery := do
  let conditions ← db.compileFilter table filter .qualified
  let q ← db.modify (.select { SelectQuery.ofTable table with columns, conditions, orderBy })
  .ofExcept q.toSelect

/-- A value to set: its key is a column and nothing else. -/
def assignment (key : String) (value : Json) : Except Error Assignment :=
  match Operator.splitKey key with
  | (column, .eq) =>
    if column.isEmpty then .error (.invalidArgument (.assignmentKey key))
    else
      match Bound.ofCell column value with
      | .error e => .error e
      | .ok value => .ok ⟨column, value⟩
  | _ => .error (.invalidArgument (.assignmentKey key))

def assignments : Fields → Except Error (List Assignment)
  | [] => .ok []
  | (key, value) :: rest =>
    match assignment key value with
    | .error e => .error e
    | .ok a =>
      match assignments rest with
      | .error e => .error e
      | .ok more => .ok (a :: more)

/-- Neither an update of nothing nor one of every row is accepted. -/
def update {σ : Type} (db : Database σ) (table : String) (values : Fields) (filter : Filter) :
    Run (Session σ) UpdateQuery :=
  if values.isEmpty then .reject .nothingToSet
  else if filter.isEmpty then .reject (.unfilteredUpdate table)
  else do
    let conditions ← db.compileFilter table filter .unqualified
    let assignments ← .ofExcept (assignments values)
    let q ← db.modify (.update { UpdateQuery.ofTable table conditions with assignments })
    .ofExcept q.toUpdate

/-- What deletes the rows may be another kind of query, as the modifiers decide. -/
def delete {σ : Type} (db : Database σ) (table : String) (filter : Filter) :
    Run (Session σ) Query :=
  if filter.isEmpty then .reject (.unfilteredDelete table)
  else do
    let conditions ← db.compileFilter table filter .unqualified
    db.modify (.delete (DeleteQuery.ofTable table conditions))

/-! ## Running queries -/

def sendFetch {σ : Type} (db : Database σ) (statement : Statement) : Run (Session σ) (List Row) :=
  Session.send (.fetch statement) (db.backend.fetch statement)

def sendExecute {σ : Type} (db : Database σ) (statement : Statement) : Run (Session σ) ExecResult :=
  Session.send (.execute statement) (db.backend.execute statement)

def fetch {σ : Type} (db : Database σ) (q : SelectQuery) : Run (Session σ) (List Row) :=
  db.sendFetch (q.statement db.dialect)

/-- The number of rows of an update or a delete. -/
def execute {σ : Type} (db : Database σ) (q : Query) : Run (Session σ) Nat :=
  match q with
  | .select _ => .reject .executeSelect
  | q => do
    let result ← db.sendExecute (q.statement db.dialect)
    return result.rowsAffected

/-- The count in the first row of a result. -/
def countOfRows (rows : List Row) : Except Error Nat :=
  match rows.head?.bind fun row => Fields.get? row countColumn with
  | none => .error (.invalidArgument (.countMissing countColumn))
  | some (.num n) =>
    match n.natural? with
    | some count => .ok count
    | none => .error (.invalidArgument (.countNotNatural countColumn n.text))
  | some v => .error (.invalidArgument (.countNotNatural countColumn v.text))

/-- Counts by a column, or else by the id column of the settings. -/
def countSelect {σ : Type} (db : Database σ) (q : SelectQuery) (idColumn : Option String) :
    Run (Session σ) Nat :=
  if q.isGrouped then .reject .countGrouped
  else do
    let rows ← db.sendFetch (q.countStatement db.dialect (idColumn.getD db.settings.idColumn))
    .ofExcept (countOfRows rows)

def count {σ : Type} (db : Database σ) (q : Query) (idColumn : Option String) :
    Run (Session σ) Nat :=
  match q with
  | .select q => db.countSelect q idColumn
  | q => .reject (.countNotSelect q.kind)

end Database
end FilterSql

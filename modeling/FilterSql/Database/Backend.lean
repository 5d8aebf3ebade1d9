import FilterSql.Database.Run
import FilterSql.Json.Basic
import FilterSql.Schema.Cache
import FilterSql.Sql.Statement

/-!
# FilterSql.Database.Backend

Databases as the library sees them.

* `Backend`: what a database can be asked, over a state of its own.
* `Backend.checked`: a database that is sent only what it can take.
* `Session`: that state with the columns known so far and the list of all calls.
* `Session.send`: the only way to a database, so that every call is on the list.
-/

namespace FilterSql

/-- What a statement that returns no rows did. -/
structure ExecResult where
  rowsAffected : Nat
  lastInsertId : Option Int
deriving DecidableEq

inductive Call where
  | fetch (statement : Statement)
  | execute (statement : Statement)
  | describe (table : String)
deriving DecidableEq

structure Backend (σ : Type) where
  dialect : Dialect
  fetch : Statement → Run σ (List Row)
  execute : Statement → Run σ ExecResult
  /-- The columns of a table, none if there is no such table. -/
  describe : String → Run σ (List Column)

/-- Whether a database can take a value: its integers have 64 bits and a sign. -/
def Bound.isSendable : Bound → Bool
  | .count n => n ≤ Decimal.maxSigned64
  | _ => true

def Statement.isSendable (statement : Statement) : Bool := statement.args.all Bound.isSendable

def Call.isSendable : Call → Bool
  | .fetch statement | .execute statement => statement.isSendable
  | .describe _ => true

namespace Backend

/-- An answer that fails beforehand if the statement cannot be sent. -/
def checkedAnswer {σ α : Type} (answer : Statement → Run σ α) (statement : Statement) : Run σ α :=
  if statement.isSendable then answer statement else .fail (.backend .outOfRange)

/-- The same database, reached only by statements that it can take. -/
def checked {σ : Type} (backend : Backend σ) : Backend σ :=
  { backend with
    fetch := checkedAnswer backend.fetch
    execute := checkedAnswer backend.execute }

end Backend

structure Session (σ : Type) where
  cache : SchemaCache
  /-- All calls so far, the oldest first. -/
  calls : List Call
  server : σ

namespace Session

def start {σ : Type} (server : σ) : Session σ := ⟨.empty, [], server⟩

def send {σ α : Type} (call : Call) (answer : Run σ α) : Run (Session σ) α := fun session =>
  let (result, server) := answer session.server
  (result, { session with calls := session.calls ++ [call], server })

/-- The columns of a table as far as they are known already. -/
def known? {σ : Type} (table : String) : Run (Session σ) (Option TableColumns) := fun session =>
  (.ok (session.cache.get? table), session)

def remember {σ : Type} (columns : TableColumns) : Run (Session σ) Unit := fun session =>
  (.ok (), { session with cache := session.cache.insert columns })

end Session
end FilterSql

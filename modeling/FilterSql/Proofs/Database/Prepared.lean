import FilterSql.Database.Basic

/-!
# FilterSql.Proofs.Database.Prepared

How queries come from filters: conditions are compiled, a query is made of them, and the modifiers
have the last word.

* `Database.columns_again`, `Database.compileFilter_known`: the columns of a table are looked up at
  most once, and what is compiled does not depend on whether they were.
* `Database.prepare`: what `select`, `update` and `delete` have in common.
* `Database.prepare_plain`, `Database.prepare_of_ok`: it without modifiers, and what they add.
-/

namespace FilterSql

variable {σ : Type}

/-- The same database without modifiers. -/
def Database.plain (db : Database σ) : Database σ := { db with modifiers := .empty }

/-! ## Columns that are known -/

namespace Database

variable {db : Database σ} {table : String} {known : TableColumns} {s s' s₁ : Session σ}

theorem columns_of_hit (db : Database σ) (h : s.cache.get? table = some known) :
    db.columns table s = (.ok known, s) := by
  have hknown : Session.known? table s = (.ok (some known), s) := by rw [Session.known?, h]
  rw [columns, Run.bind_of_ok hknown]
  rfl

theorem columns_of_miss (db : Database σ) (h : s.cache.get? table = none) :
    db.columns table s = db.refreshColumns table s := by
  have hknown : Session.known? table s = (.ok none, s) := by rw [Session.known?, h]
  rw [columns, Run.bind_of_ok hknown]

theorem known_of_refreshColumns (h : db.refreshColumns table s = (.ok known, s')) :
    s'.cache.get? table = some known := by
  rw [refreshColumns, Run.bind_apply] at h
  split at h
  case h_1 answer s₁ hsend =>
    cases answer with
    | nil => cases h
    | cons column rest =>
      cases h
      simp [SchemaCache.insert, SchemaCache.get?]
  case h_2 => cases h

/-- What was looked up is known from then on. -/
theorem columns_again (h : db.columns table s = (.ok known, s')) :
    db.columns table s' = (.ok known, s') := by
  cases hcache : s.cache.get? table with
  | some found =>
    have hhit := db.columns_of_hit hcache
    rw [hhit] at h
    cases h
    exact hhit
  | none =>
    rw [db.columns_of_miss hcache] at h
    exact db.columns_of_hit (known_of_refreshColumns h)

/-- Conditions are compiled with the columns as they are known afterwards, and looked up for that at
most once. -/
theorem compileFilter_known (h : db.columns table s = (.ok known, s')) {filter : Filter}
    {target : ColumnTarget} {r : Except Error (List CompiledCondition)}
    (hcompile : db.compileFilter table filter target s = (r, s₁)) :
    db.compileFilter table filter target s' = (r, s') ∧
      db.columns table s₁ = (.ok known, s') := by
  rw [compileFilter] at hcompile ⊢
  cases hconditions : filter.conditions with
  | error e =>
    rw [hconditions] at hcompile
    cases hcompile
    exact ⟨rfl, h⟩
  | ok conditions =>
    rw [hconditions] at hcompile
    simp only [Run.ofExcept_ok, Run.pure_bind] at hcompile ⊢
    split at hcompile
    case isTrue hnull =>
      rw [Run.bind_of_ok h, Run.ofExcept_apply] at hcompile
      rw [if_pos hnull, Run.bind_of_ok (columns_again h), Run.ofExcept_apply]
      cases hcompile
      exact ⟨rfl, columns_again h⟩
    case isFalse hnull =>
      rw [Run.ofExcept_apply] at hcompile
      rw [if_neg hnull, Run.ofExcept_apply]
      cases hcompile
      exact ⟨rfl, h⟩

/-! ## Queries from conditions -/

theorem modify_of_isEmpty (h : db.modifiers.isEmpty = true) (q : Query) : db.modify q = pure q := by
  rw [modify, if_pos h]

/-- A query made of the conditions of a filter, after the modifiers. -/
def prepare (db : Database σ) (table : String) (filter : Filter) (target : ColumnTarget)
    (make : List CompiledCondition → Except Error Query) : Run (Session σ) Query := do
  let conditions ← db.compileFilter table filter target
  let q ← .ofExcept (make conditions)
  db.modify q

theorem select_eq_prepare (db : Database σ) (table : String) (columns : Selection)
    (filter : Filter) (orderBy : OrderBy) :
    db.select table columns filter orderBy = (do
      let q ← db.prepare table filter .qualified fun conditions =>
        .ok (.select { SelectQuery.ofTable table with columns, conditions, orderBy })
      .ofExcept q.toSelect) :=
  (Run.bind_assoc _ _ _).symm

theorem delete_eq_prepare (db : Database σ) (table : String) {filter : Filter}
    (h : filter.isEmpty = false) :
    db.delete table filter = db.prepare table filter .unqualified fun conditions =>
      .ok (.delete (DeleteQuery.ofTable table conditions)) := by
  rw [delete, h, if_neg Bool.false_ne_true]
  rfl

theorem update_eq_prepare (db : Database σ) (table : String) {values : Fields} {filter : Filter}
    (hv : values.isEmpty = false) (hf : filter.isEmpty = false) :
    db.update table values filter = (do
      let q ← db.prepare table filter .unqualified fun conditions =>
        (assignments values).map fun assignments =>
          .update { UpdateQuery.ofTable table conditions with assignments }
      .ofExcept q.toUpdate) := by
  rw [update, hv, hf, if_neg Bool.false_ne_true, if_neg Bool.false_ne_true, prepare,
    Run.bind_assoc]
  congr 1
  funext conditions
  cases assignments values <;> rfl

variable {filter : Filter} {target : ColumnTarget}
  {make : List CompiledCondition → Except Error Query}

/-- Without modifiers a query stays as it was made. -/
theorem prepare_plain (db : Database σ) {r : Except Error (List CompiledCondition)}
    (hcompile : db.compileFilter table filter target s = (r, s₁)) :
    db.plain.prepare table filter target make s = (r.bind make, s₁) := by
  have hplain : db.plain.compileFilter table filter target s = (r, s₁) := hcompile
  cases r with
  | error e => exact Run.bind_of_error hplain
  | ok conditions =>
    rw [prepare, Run.bind_of_ok hplain]
    cases hq : make conditions <;> simp only [Except.bind, hq] <;> rfl

/-- What comes out is what the modifiers make of the query without them. -/
theorem prepare_of_ok {q' : Query} {after : Session σ}
    (h : db.prepare table filter target make s = (.ok q', after)) :
    ∃ conditions q s₁, make conditions = .ok q ∧
      db.plain.prepare table filter target make s = (.ok q, s₁) ∧
        db.modify q s₁ = (.ok q', after) := by
  rcases hcompile : db.compileFilter table filter target s with ⟨e | conditions, s₁⟩
  · rw [prepare, Run.bind_of_error hcompile] at h
    cases h
  · rw [prepare, Run.bind_of_ok hcompile] at h
    rw [prepare_plain db hcompile]
    cases hq : make conditions with
    | error e =>
      rw [hq] at h
      cases h
    | ok q =>
      rw [hq] at h
      exact ⟨conditions, q, s₁, hq, by simp only [Except.bind, hq], h⟩

/-- What an update is made of is an update of the table. -/
theorem exists_update_of_made {conditions : List CompiledCondition} {values : Fields} {q : Query}
    (h : ((assignments values).map fun assignments =>
      Query.update { UpdateQuery.ofTable table conditions with assignments }) = .ok q) :
    ∃ u : UpdateQuery, u.table = table ∧ q = .update u := by
  cases hset : assignments values with
  | error e =>
    rw [hset] at h
    cases h
  | ok set =>
    rw [hset] at h
    cases h
    exact ⟨_, rfl, rfl⟩

end Database
end FilterSql

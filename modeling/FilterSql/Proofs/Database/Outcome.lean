import Mathlib.Algebra.GroupWithZero.Nat
import FilterSql.Database.Bulk
import FilterSql.Database.Scripted

/-!
# FilterSql.Proofs.Database.Outcome

What comes of inserts that are sent one after another.

* `Backend.answers`: what the backend has to say to statements, whether they are sent or not.
* `Database.runInserts_of_ok`, `Database.runInserts_of_error`: a run up to its end, and up to the
  first failure.
* `Database.bulk_outcome`: which statements of a plan are sent, and what the caller is told.
-/

namespace FilterSql

variable {σ : Type}

/-- The answers to statements one after another, each from the state that the one before left. -/
def Backend.answers (backend : Backend σ) : List Statement → σ → List (Except Error ExecResult)
  | [], _ => []
  | statement :: rest, server =>
    let answer := backend.execute statement server
    answer.1 :: backend.answers rest answer.2

/-- Answers succeed up to the first failure, if there is one. -/
theorem answers_split {ε α : Type} (answers : List (Except ε α)) :
    ∃ results : List α, answers = results.map .ok ∨
      ∃ e rest, answers = results.map .ok ++ .error e :: rest := by
  induction answers with
  | nil => exact ⟨[], .inl rfl⟩
  | cons answer answers ih =>
    cases answer with
    | error e => exact ⟨[], .inr ⟨e, answers, rfl⟩⟩
    | ok a =>
      obtain ⟨results, h | ⟨e, rest, h⟩⟩ := ih
      · exact ⟨a :: results, .inl (congrArg (.ok a :: ·) h)⟩
      · exact ⟨a :: results, .inr ⟨e, rest, congrArg (.ok a :: ·) h⟩⟩

/-! ## Results -/

namespace ExecResult

open Database.ExecResult (plus)

/-- All the rows of some statements, and the last id that one of them told, which PostgreSQL does
not do. -/
def total (dialect : Dialect) (results : List ExecResult) : ExecResult where
  rowsAffected := (results.map rowsAffected).sum
  lastInsertId :=
    match dialect with
    | .sqlite => (results.filterMap lastInsertId).getLast?
    | .postgres => none

theorem rowsAffected_foldl_plus (dialect : Dialect) (results : List ExecResult)
    (done : ExecResult) :
    (results.foldl (plus dialect) done).rowsAffected =
      done.rowsAffected + (results.map rowsAffected).sum := by
  induction results generalizing done with
  | nil => rfl
  | cons result results ih =>
    rw [List.foldl_cons, ih, plus, List.map_cons, List.sum_cons, Nat.add_assoc]

theorem lastInsertId_foldl_plus_sqlite (results : List ExecResult) (done : ExecResult) :
    (results.foldl (plus .sqlite) done).lastInsertId =
      (results.filterMap lastInsertId).getLast?.or done.lastInsertId := by
  induction results generalizing done with
  | nil => rfl
  | cons result results ih =>
    rw [List.foldl_cons, ih]
    cases hid : result.lastInsertId with
    | none => simp [plus, Dialect.reportsLastInsertId, hid]
    | some id => simp [plus, Dialect.reportsLastInsertId, hid, List.getLast?_cons]

theorem lastInsertId_foldl_plus_postgres (results : List ExecResult) (done : ExecResult) :
    (results.foldl (plus .postgres) done).lastInsertId = done.lastInsertId := by
  induction results generalizing done with
  | nil => rfl
  | cons result results ih => rw [List.foldl_cons, ih]; rfl

theorem foldl_plus (dialect : Dialect) (results : List ExecResult) :
    results.foldl (plus dialect) ⟨0, none⟩ = total dialect results := by
  have hrows := rowsAffected_foldl_plus dialect results ⟨0, none⟩
  have hid : (results.foldl (plus dialect) ⟨0, none⟩).lastInsertId =
      (total dialect results).lastInsertId := by
    cases dialect with
    | sqlite => rw [lastInsertId_foldl_plus_sqlite, Option.or_none, total]
    | postgres => exact lastInsertId_foldl_plus_postgres results ⟨0, none⟩
  rw [Nat.zero_add] at hrows
  cases h : results.foldl (plus dialect) ⟨0, none⟩
  rw [h] at hrows hid
  rw [mk.injEq]
  exact ⟨hrows, hid⟩

end ExecResult

/-! ## Errors -/

/-- A failure of the backend as the caller gets it: a duplicate key is told as a violation of the
table's constraint with the backend's own account of it, and all else as it came. -/
def Error.ToldAs (table : String) (e told : Error) : Prop :=
  (∃ source, e = .backend source ∧ source.isDuplicate = true ∧
      told = .constraintViolation table source) ∨
    (∀ source, e = .backend source → source.isDuplicate = false) ∧ told = e

namespace Database

theorem toldAs_violation (table : String) (e : Error) : e.ToldAs table (violation table e) := by
  cases e with
  | backend source =>
    cases hs : source.isDuplicate with
    | true => exact .inl ⟨source, rfl, hs, by simp [violation, hs]⟩
    | false => exact .inr ⟨fun _ h => Error.backend.inj h ▸ hs, by simp [violation, hs]⟩
  | _ => exact .inr ⟨nofun, rfl⟩

theorem isDuplicate_violation (table : String) (e : Error) :
    (violation table e).isDuplicate = e.isDuplicate := by
  cases e with
  | backend source => cases hs : source.isDuplicate <;> simp [violation, hs, Error.isDuplicate]
  | _ => rfl

/-! ## Running a plan -/

variable {db : Database σ} {table : String}

/-- The statements of a plan. -/
def planned (db : Database σ) (plan : List InsertQuery) : List Statement :=
  plan.map fun q => q.statement db.dialect

theorem sendExecute_eq {statement : Statement} {s : Session σ} {answer : Except Error ExecResult}
    (h : (db.backend.execute statement s.server).1 = answer) :
    db.sendExecute statement s = (answer, (db.sendExecute statement s).2) :=
  Prod.ext h rfl

theorem sendExecute_calls (db : Database σ) (statement : Statement) (s : Session σ) :
    (db.sendExecute statement s).2.calls = s.calls ++ [.execute statement] := rfl

theorem runInserts_cons_of_ok {done result : ExecResult} {q : InsertQuery}
    {rest : List InsertQuery} {s : Session σ}
    (h : (db.backend.execute (q.statement db.dialect) s.server).1 = .ok result) :
    db.runInserts table done (q :: rest) s =
      db.runInserts table (ExecResult.plus db.dialect done result) rest
        (db.sendExecute (q.statement db.dialect) s).2 :=
  Run.bind_of_ok (Run.mapError_of_ok (sendExecute_eq h))

theorem runInserts_cons_of_error {done : ExecResult} {e : Error} {q : InsertQuery}
    {rest : List InsertQuery} {s : Session σ}
    (h : (db.backend.execute (q.statement db.dialect) s.server).1 = .error e) :
    db.runInserts table done (q :: rest) s =
      (.error (violation table e), (db.sendExecute (q.statement db.dialect) s).2) :=
  Run.bind_of_error (Run.mapError_of_error (sendExecute_eq h))

theorem runInserts_of_ok (table : String) (done : ExecResult) {plan : List InsertQuery}
    {results : List ExecResult} {s : Session σ}
    (h : db.backend.answers (db.planned plan) s.server = results.map .ok) :
    ∃ after, db.runInserts table done plan s =
        (.ok (results.foldl (ExecResult.plus db.dialect) done), after) ∧
      after.calls = s.calls ++ (db.planned plan).map .execute := by
  induction plan generalizing results done s with
  | nil =>
    cases results with
    | nil => exact ⟨s, rfl, (List.append_nil _).symm⟩
    | cons result results => cases h
  | cons q plan ih =>
    cases results with
    | nil => cases h
    | cons result results =>
      obtain ⟨hfirst, hrest⟩ := List.cons.inj h
      obtain ⟨after, hrun, hcalls⟩ := ih (ExecResult.plus db.dialect done result)
        (s := (db.sendExecute (q.statement db.dialect) s).2) hrest
      refine ⟨after, (runInserts_cons_of_ok hfirst).trans hrun, ?_⟩
      rw [hcalls, sendExecute_calls, List.append_assoc]
      rfl

theorem runInserts_of_error (table : String) (done : ExecResult) {plan : List InsertQuery}
    {results : List ExecResult} {e : Error} {rest : List (Except Error ExecResult)} {s : Session σ}
    (h : db.backend.answers (db.planned plan) s.server = results.map .ok ++ .error e :: rest) :
    ∃ after, db.runInserts table done plan s = (.error (violation table e), after) ∧
      after.calls = s.calls ++ ((db.planned plan).take (results.length + 1)).map .execute := by
  -- The failure is in the first answer, or the first statement succeeds and it is further on.
  induction plan generalizing results done s with
  | nil => cases results <;> cases h
  | cons q plan ih =>
    cases results with
    | nil =>
      obtain ⟨hfirst, -⟩ := List.cons.inj h
      exact ⟨_, runInserts_cons_of_error hfirst, sendExecute_calls db _ s⟩
    | cons result results =>
      obtain ⟨hfirst, hrest⟩ := List.cons.inj h
      obtain ⟨after, hrun, hcalls⟩ := ih (ExecResult.plus db.dialect done result)
        (s := (db.sendExecute (q.statement db.dialect) s).2) hrest
      refine ⟨after, (runInserts_cons_of_ok hfirst).trans hrun, ?_⟩
      rw [hcalls, sendExecute_calls, List.append_assoc]
      rfl

/-! ## Whole calls -/

/-- What a call that sends these statements does: all of them are sent and `view` is told of what
they did together, or those up to the first failure are sent and that failure is told. -/
def Outcome {α : Type} (db : Database σ) (table : String) (view : ExecResult → α)
    (statements : List Statement) (before : Session σ) (call : Except Error α × Session σ) : Prop :=
  ∃ results,
    (db.backend.answers statements before.server = results.map .ok ∧
      call.1 = .ok (view (.total db.dialect results)) ∧
      call.2.calls = before.calls ++ statements.map .execute) ∨
    ∃ e rest told,
      db.backend.answers statements before.server = results.map .ok ++ .error e :: rest ∧
      call.1 = .error told ∧ e.ToldAs table told ∧ told.isDuplicate = e.isDuplicate ∧
      call.2.calls = before.calls ++ (statements.take (results.length + 1)).map .execute

theorem insertAll_of_insertPlan {rows : List Row} {upsert : Bool} {plan : List InsertQuery}
    (h : db.insertPlan table rows upsert = .ok plan) (s : Session σ) :
    db.insertAll table rows upsert s = db.runInserts table ⟨0, none⟩ plan s := by
  rw [insertAll, h]
  rfl

theorem insertAll_outcome {rows : List Row} {upsert : Bool} {plan : List InsertQuery}
    (h : db.insertPlan table rows upsert = .ok plan) (s : Session σ) :
    db.Outcome table id (db.planned plan) s (db.insertAll table rows upsert s) := by
  rw [insertAll_of_insertPlan h]
  obtain ⟨results, hanswers | ⟨e, rest, hanswers⟩⟩ :=
    answers_split (db.backend.answers (db.planned plan) s.server)
  · obtain ⟨after, hok, hcalls⟩ := runInserts_of_ok table ⟨0, none⟩ hanswers
    rw [hok, ExecResult.foldl_plus]
    exact ⟨results, .inl ⟨hanswers, rfl, hcalls⟩⟩
  · obtain ⟨after, herror, hcalls⟩ := runInserts_of_error table ⟨0, none⟩ hanswers
    rw [herror]
    exact ⟨results, .inr ⟨e, rest, _, hanswers, rfl, toldAs_violation table e,
      isDuplicate_violation table e, hcalls⟩⟩

theorem insertRows_of_ok {rows : List Row} {s after : Session σ} {result : ExecResult}
    (h : db.insertAll table rows false s = (.ok result, after)) :
    db.insertRows table rows s = (.ok result.rowsAffected, after) := Run.bind_of_ok h

theorem insertRows_of_error {rows : List Row} {s after : Session σ} {e : Error}
    (h : db.insertAll table rows false s = (.error e, after)) :
    db.insertRows table rows s = (.error e, after) := Run.bind_of_error h

theorem insertRows_outcome {rows : List Row} {plan : List InsertQuery}
    (h : db.insertPlan table rows false = .ok plan) (s : Session σ) :
    db.Outcome table ExecResult.rowsAffected (db.planned plan) s (db.insertRows table rows s) := by
  have hall := insertAll_outcome h s
  rcases hrun : db.insertAll table rows false s with ⟨result, after⟩
  rw [hrun] at hall
  obtain ⟨results, ⟨hanswers, hok, hcalls⟩ | ⟨e, rest, told, hanswers, herror, htold⟩⟩ := hall
  · cases hok
    rw [insertRows_of_ok hrun]
    exact ⟨results, .inl ⟨hanswers, rfl, hcalls⟩⟩
  · cases herror
    rw [insertRows_of_error hrun]
    exact ⟨results, .inr ⟨e, rest, told, hanswers, rfl, htold⟩⟩

theorem bulk_outcome (db : Database σ) (table : String) (rows : List Row) (s : Session σ) :
    (∀ plan, db.insertPlan table rows false = .ok plan →
      db.Outcome table ExecResult.rowsAffected (db.planned plan) s (db.insertRows table rows s)) ∧
    ∀ plan, db.insertPlan table rows true = .ok plan →
      db.Outcome table id (db.planned plan) s (db.upsertRows table rows s) :=
  ⟨fun _ h => insertRows_outcome h s, fun _ h => insertAll_outcome h s⟩

/-! ## A duplicate on the way -/

/-- Items go one by one into a database that knows its answers beforehand. -/
def oneByOne : Database Script := ⟨Script.backend .sqlite, ⟨1, 100, "id"⟩, .empty⟩

def item (n : Nat) : Row := [("id", .ofNat n)]

def insertItem (conflict : Option String) (n : Nat) : InsertQuery :=
  ⟨"items", ["id"], [[some (.int n)]], conflict⟩

theorem oneByOne_insertPlan (upsert : Bool) :
    oneByOne.insertPlan "items" [item 1, item 2, item 3] upsert =
      .ok ([1, 2, 3].map (insertItem (if upsert then some "id" else none))) := by
  change Except.ok ((chunks 1 [[some (.int 1)], [some (.int 2)], [some (.int 3)]]).map fun batch =>
    InsertQuery.mk "items" ["id"] batch (if upsert then some "id" else none)) = _
  simp [chunks, insertItem]

def duplicateItem : BackendError :=
  .database ⟨.unique, some "2067", "UNIQUE constraint failed: items.id"⟩

def secondFails : Session Script :=
  .start ⟨[.done ⟨1, some 7⟩, .fail (.backend duplicateItem), .done ⟨1, some 8⟩], none, []⟩

/-- The third item is not sent, and the caller learns of the duplicate. -/
theorem bulk_outcome_secondFails :
    (∀ upsert, oneByOne.insertPlan "items" [item 1, item 2, item 3] upsert =
      .ok ([1, 2, 3].map (insertItem (if upsert then some "id" else none)))) ∧
    oneByOne.backend.answers (oneByOne.planned ([1, 2, 3].map (insertItem none)))
        secondFails.server =
      [.ok ⟨1, some 7⟩, .error (.backend duplicateItem), .ok ⟨1, some 8⟩] ∧
    oneByOne.Outcome "items" ExecResult.rowsAffected
      (oneByOne.planned ([1, 2, 3].map (insertItem none))) secondFails
      (oneByOne.insertRows "items" [item 1, item 2, item 3] secondFails) ∧
    oneByOne.Outcome "items" id
      (oneByOne.planned ([1, 2, 3].map (insertItem (some "id")))) secondFails
      (oneByOne.upsertRows "items" [item 1, item 2, item 3] secondFails) := by
  have houtcome := bulk_outcome oneByOne "items" [item 1, item 2, item 3] secondFails
  exact ⟨oneByOne_insertPlan, rfl, houtcome.1 _ (oneByOne_insertPlan false),
    houtcome.2 _ (oneByOne_insertPlan true)⟩

end Database
end FilterSql

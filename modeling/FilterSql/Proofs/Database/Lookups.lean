import FilterSql.Database.Bulk
import FilterSql.Proofs.Database.Closed
import FilterSql.Proofs.Database.Prepared
import FilterSql.Proofs.Filter.Conditions
import FilterSql.Proofs.Schema.History

/-!
# FilterSql.Proofs.Database.Lookups

What is asked of a backend about its tables, and what a session knows of them afterwards.

* `Backend.replay`: what calls tell of the tables.
* `Session.Learned`, `Run.Learns`: the cache holds what it held and what was told since.
* `Run.LooksUpOnce`, `Run.Stays`: a table is asked for at most once, or not at all.
-/

namespace FilterSql

variable {σ α β : Type}

namespace Backend

/-- What the calls tell of the tables, and the state of the server after them. -/
def replay (backend : Backend σ) : List Call → σ → List SchemaEvent × σ
  | [], server => ([], server)
  | .fetch statement :: rest, server => backend.replay rest (backend.fetch statement server).2
  | .execute statement :: rest, server => backend.replay rest (backend.execute statement server).2
  | .describe table :: rest, server =>
    let (answer, server) := backend.describe table server
    let (events, server) := backend.replay rest server
    (.described table answer :: events, server)

theorem replay_append (backend : Backend σ) (calls more : List Call) (server : σ) :
    backend.replay (calls ++ more) server =
      ((backend.replay calls server).1 ++
          (backend.replay more (backend.replay calls server).2).1,
        (backend.replay more (backend.replay calls server).2).2) := by
  induction calls generalizing server with
  | nil => rfl
  | cons call rest ih => cases call <;> simp [replay, ih]

theorem exists_described_of_mem_replay {backend : Backend σ} {calls : List Call} {server : σ}
    {e : SchemaEvent} (h : e ∈ (backend.replay calls server).1) :
    ∃ table answer, e = .described table answer := by
  induction calls generalizing server with
  | nil => cases h
  | cons call rest ih =>
    cases call with
    | fetch statement => exact ih h
    | execute statement => exact ih h
    | describe table =>
      rcases List.mem_cons.1 h with rfl | h
      · exact ⟨table, _, rfl⟩
      · exact ih h

end Backend

/-! ## Sessions -/

namespace Session

/-- The cache holds what it held before and what the calls since then have told. -/
def Learned (backend : Backend σ) (before after : Session σ) : Prop :=
  ∃ calls, after.calls = before.calls ++ calls ∧
    after.server = (backend.replay calls before.server).2 ∧
      after.cache = before.cache.learn (backend.replay calls before.server).1

/-- What the calls between two sessions told. -/
def heard (backend : Backend σ) (before after : Session σ) : List SchemaEvent :=
  (backend.replay (after.calls.drop before.calls.length) before.server).1

namespace Learned

variable {backend : Backend σ} {s s' s'' : Session σ}

theorem refl (backend : Backend σ) (s : Session σ) : s.Learned backend s :=
  ⟨[], (List.append_nil _).symm, rfl, rfl⟩

theorem trans (h : s.Learned backend s') (h' : s'.Learned backend s'') :
    s.Learned backend s'' := by
  obtain ⟨calls, hcalls, hserver, hcache⟩ := h
  obtain ⟨more, hcalls', hserver', hcache'⟩ := h'
  refine ⟨calls ++ more, by rw [hcalls', hcalls, List.append_assoc], ?_, ?_⟩
  · rw [hserver', hserver, backend.replay_append]
  · rw [hcache', hcache, hserver, backend.replay_append, SchemaCache.learn_append]

theorem cache_eq (h : s.Learned backend s') : s'.cache = s.cache.learn (s.heard backend s') := by
  obtain ⟨calls, hcalls, -, hcache⟩ := h
  rw [hcache, heard, hcalls, List.drop_left]

end Learned
end Session

/-! ## Runs -/

namespace Run

/-- The same run without its result; an error stays. -/
def ignore (run : Run (Session σ) α) : Run (Session σ) Unit := do
  let _ ← run
  return ()

/-- A run that does nothing to the session. -/
def Stays (run : Run (Session σ) α) : Prop := ∀ s : Session σ, (run s).2 = s

theorem closed_stays : Closed (σ := σ) Stays :=
  closed_of_trans (R := fun s s' => s' = s) (fun _ => rfl) fun h h' => h'.trans h

def Learns (backend : Backend σ) (run : Run (Session σ) α) : Prop :=
  ∀ s : Session σ, s.Learned backend (run s).2

theorem closed_learns (backend : Backend σ) : Closed (Learns backend) :=
  closed_of_trans (.refl backend) .trans

theorem Learns.mapError {backend : Backend σ} {run : Run (Session σ) α} {f : Error → Error}
    (h : Learns backend run) : Learns backend (mapError f run) := by
  intro s
  have hrun := h s
  rcases heq : run s with ⟨e | a, after⟩ <;> rw [heq] at hrun
  · rwa [mapError_of_error heq]
  · rwa [mapError_of_ok heq]

/-- A run that asks for the columns of a table at most once and sends nothing else: either it leaves
the session as it is, or the table was not known, and is known then if the run succeeds. -/
def LooksUpOnce (table : String) (run : Run (Session σ) α) : Prop :=
  ∀ s : Session σ, (run s).2 = s ∨
    s.cache.get? table = none ∧ (run s).2.calls = s.calls ++ [.describe table] ∧
      ∀ a, (run s).1 = .ok a → (run s).2.cache.get? table ≠ none

/-- A second look-up would find what the first has told. -/
theorem closed_looksUpOnce (table : String) : Closed (σ := σ) (LooksUpOnce table) where
  pure _ _ := .inl rfl
  fail _ _ := .inl rfl
  bind {_ _ run next} h hnext s := by
    have hfirst := h s
    rcases hrun : run s with ⟨e | a, after⟩ <;> rw [hrun] at hfirst
    · rw [bind_of_error hrun]
      exact hfirst.imp id fun ⟨hmiss, hcalls, _⟩ => ⟨hmiss, hcalls, nofun⟩
    · rw [bind_of_ok hrun]
      rcases hfirst with rfl | ⟨hmiss, hcalls, hknown⟩
      · exact hnext a after
      · have hsecond := (hnext a after).resolve_right fun h => hknown a rfl h.1
        rw [hsecond]
        exact .inr ⟨hmiss, hcalls, fun _ _ => hknown a rfl⟩

theorem LooksUpOnce.calls {table : String} {run : Run (Session σ) α} (h : LooksUpOnce table run)
    (s : Session σ) :
    (run s).2.calls = s.calls ∨ (run s).2.calls = s.calls ++ [.describe table] :=
  (h s).imp (fun h => by rw [h]) fun h => h.2.1

end Run

/-! ## Queries -/

namespace Database

open Run (Learns LooksUpOnce Stays)

variable (db : Database σ)

theorem learns_refreshColumns (table : String) : Learns db.backend (db.refreshColumns table) := by
  intro s
  refine ⟨[.describe table], ?_⟩
  rcases hanswer : db.backend.describe table s.server with ⟨e | ⟨- | ⟨column, rest⟩⟩, server⟩ <;>
    simp [refreshColumns, Run.bind_apply, Session.send, Session.remember, Backend.replay, hanswer,
      SchemaCache.learn, SchemaCache.heed, Run.reject, Run.pure_apply]

theorem learns_columns (table : String) : Learns db.backend (db.columns table) := by
  intro s
  cases hknown : s.cache.get? table with
  | some known =>
    rw [db.columns_of_hit hknown]
    exact .refl _ s
  | none =>
    rw [db.columns_of_miss hknown]
    exact db.learns_refreshColumns table s

theorem calls_refreshColumns (table : String) (s : Session σ) :
    (db.refreshColumns table s).2.calls = s.calls ++ [.describe table] := by
  rcases hanswer : db.backend.describe table s.server with ⟨e | ⟨- | ⟨column, rest⟩⟩, server⟩ <;>
    simp [refreshColumns, Run.bind_apply, Session.send, Session.remember, hanswer, Run.reject,
      Run.pure_apply]

theorem looksUpOnce_columns (table : String) : LooksUpOnce table (db.columns table) := by
  intro s
  cases hknown : s.cache.get? table with
  | some known =>
    rw [db.columns_of_hit hknown]
    exact .inl rfl
  | none =>
    rw [db.columns_of_miss hknown]
    refine .inr ⟨rfl, db.calls_refreshColumns table s, fun found hfound => ?_⟩
    have hrun : db.refreshColumns table s = (.ok found, (db.refreshColumns table s).2) :=
      Prod.ext hfound rfl
    simp [known_of_refreshColumns hrun]

theorem calls_columns (table : String) (s : Session σ) :
    (db.columns table s).2.calls =
      s.calls ++ if (s.cache.get? table).isSome then [] else [.describe table] := by
  cases hknown : s.cache.get? table with
  | some known => simp [db.columns_of_hit hknown]
  | none => simp [db.columns_of_miss hknown, db.calls_refreshColumns]

/-- Without NULL nothing is looked up. -/
theorem stays_compileFilter {table : String} {filter : Filter} (target : ColumnTarget)
    (hnull : ∀ key value, (key, value) ∈ filter → value ≠ .null) :
    Stays (db.compileFilter table filter target) := by
  have hP := Run.closed_stays (σ := σ)
  unfold compileFilter
  cases hconditions : filter.conditions with
  | error e => exact hP.fail e
  | ok conditions =>
    have hplain : conditions.any Condition.needsNullability = false := by
      rw [Filter.any_needsNullability hconditions, List.any_eq_false]
      rintro ⟨key, value⟩ hmem hvalue
      cases value with
      | null => exact hnull key _ hmem rfl
      | _ => cases hvalue
    simp only [Run.ofExcept_ok, Run.pure_bind, hplain]
    exact hP.ofExcept _

end Database

/-! ## Statements -/

namespace Database

open Run (Learns)

variable (db : Database σ)

theorem learns_sendFetch (statement : Statement) : Learns db.backend (db.sendFetch statement) :=
  fun _ => ⟨[.fetch statement], rfl, rfl, rfl⟩

theorem learns_sendExecute (statement : Statement) :
    Learns db.backend (db.sendExecute statement) :=
  fun _ => ⟨[.execute statement], rfl, rfl, rfl⟩

theorem learns_execute (q : Query) : Learns db.backend (db.execute q) := by
  have hP := Run.closed_learns db.backend
  cases q with
  | select q => exact hP.fail _
  | update q => exact hP.bind (db.learns_sendExecute _) fun _ => hP.pure _
  | delete q => exact hP.bind (db.learns_sendExecute _) fun _ => hP.pure _

theorem learns_count (q : Query) (idColumn : Option String) :
    Learns db.backend (db.count q idColumn) := by
  have hP := Run.closed_learns db.backend
  cases q with
  | select q =>
    simp only [count, countSelect]
    split
    · exact hP.fail _
    · exact hP.bind (db.learns_sendFetch _) fun _ => hP.ofExcept _
  | update q => exact hP.fail _
  | delete q => exact hP.fail _

theorem learns_runInserts (table : String) (done : ExecResult) (plan : List InsertQuery) :
    Learns db.backend (db.runInserts table done plan) := by
  have hP := Run.closed_learns db.backend
  induction plan generalizing done with
  | nil => exact hP.pure done
  | cons q rest ih => exact hP.bind (db.learns_sendExecute _).mapError fun _ => ih _

theorem learns_insertAll (table : String) (rows : List Row) (upsert : Bool) :
    Learns db.backend (db.insertAll table rows upsert) := by
  have hP := Run.closed_learns db.backend
  exact hP.bind (hP.ofExcept _) fun plan => db.learns_runInserts table _ plan

end Database
end FilterSql

import FilterSql.Database.Bulk
import FilterSql.Proofs.Database.Closed

/-!
# FilterSql.Proofs.Database.Refused

Writes that reject their arguments do so before they send a statement.

* `Run.LooksUp`, `Run.NeverRejects`: the two kinds of steps that a write is made of.
* `Run.RejectsFirst`: what steps of the first kind and then steps of the second are together.
* `Database.writes_reject_first`: every write is of that kind.
-/

namespace FilterSql

variable {σ α β : Type}

/-- Between the two sessions the columns of some tables were asked for, and nothing else was. -/
def Session.LookedUp (before after : Session σ) : Prop :=
  ∃ tables : List String, after.calls = before.calls ++ tables.map .describe

theorem Session.LookedUp.refl (s : Session σ) : s.LookedUp s := ⟨[], (List.append_nil _).symm⟩

theorem Session.LookedUp.trans {s s' s'' : Session σ} (h : s.LookedUp s') (h' : s'.LookedUp s'') :
    s.LookedUp s'' := by
  obtain ⟨tables, h⟩ := h
  obtain ⟨more, h'⟩ := h'
  exact ⟨tables ++ more, by rw [h', h, List.map_append, List.append_assoc]⟩

/-! ## Runs -/

namespace Run

/-- A run that asks for columns only. -/
def LooksUp (run : Run (Session σ) α) : Prop := ∀ s : Session σ, s.LookedUp (run s).2

/-- A run that may fail, but not for its arguments. -/
def NeverRejects (run : Run (Session σ) α) : Prop :=
  ∀ (s : Session σ) (e : Error), (run s).1 = .error e → e.isInvalidArgument = false

/-- A run that has asked for columns only if it fails for its arguments. -/
def RejectsFirst (run : Run (Session σ) α) : Prop :=
  ∀ (s : Session σ) (e : Error), (run s).1 = .error e → e.isInvalidArgument = true →
    s.LookedUp (run s).2

variable {run : Run (Session σ) α} {next : α → Run (Session σ) β}

theorem LooksUp.rejectsFirst (h : LooksUp run) : RejectsFirst run := fun s _ _ _ => h s

theorem NeverRejects.rejectsFirst (h : NeverRejects run) : RejectsFirst run := by
  intro s e he hinvalid
  rw [h s e he] at hinvalid
  cases hinvalid

theorem closed_looksUp : Closed (σ := σ) LooksUp := closed_of_trans .refl .trans

/-- The second run matters only where it comes to it. -/
theorem LooksUp.lookedUp_bind (h : LooksUp run) {s : Session σ}
    (hnext : ∀ a after, run s = (.ok a, after) → after.LookedUp (next a after).2) :
    s.LookedUp ((run >>= next) s).2 := by
  have hfirst := h s
  rcases hrun : run s with ⟨e | a, after⟩
  · rw [bind_of_error hrun]
    rw [hrun] at hfirst
    exact hfirst
  · rw [bind_of_ok hrun]
    rw [hrun] at hfirst
    exact hfirst.trans (hnext a after hrun)

theorem LooksUp.bind_rejectsFirst (h : LooksUp run) (hnext : ∀ a, RejectsFirst (next a)) :
    RejectsFirst (run >>= next) := by
  intro s e he hinvalid
  refine h.lookedUp_bind fun a after hrun => hnext a after e ?_ hinvalid
  rw [bind_of_ok hrun] at he
  exact he

theorem neverRejects_pure (a : α) : NeverRejects (pure a : Run (Session σ) α) := by
  intro s e he
  cases he

theorem NeverRejects.bind (h : NeverRejects run) (hnext : ∀ a, NeverRejects (next a)) :
    NeverRejects (run >>= next) := by
  intro s e he
  rcases hrun : run s with ⟨e' | a, after⟩
  · rw [bind_of_error hrun] at he
    cases he
    exact h s e (by rw [hrun])
  · rw [bind_of_ok hrun] at he
    exact hnext a after e he

theorem RejectsFirst.bind_neverRejects (h : RejectsFirst run) (hnext : ∀ a, NeverRejects (next a)) :
    RejectsFirst (run >>= next) := by
  intro s e he hinvalid
  rcases hrun : run s with ⟨e' | a, after⟩
  · have hfirst := h s e'
    rw [bind_of_error hrun] at he ⊢
    rw [hrun] at hfirst
    cases he
    exact hfirst rfl hinvalid
  · rw [bind_of_ok hrun] at he
    rw [hnext a after e he] at hinvalid
    cases hinvalid

theorem NeverRejects.mapError {f : Error → Error} (h : NeverRejects run)
    (hf : ∀ e, e.isInvalidArgument = false → (f e).isInvalidArgument = false) :
    NeverRejects (mapError f run) := by
  intro s e he
  rcases hrun : run s with ⟨e' | a, after⟩
  · rw [mapError_of_error hrun] at he
    cases he
    exact hf e' (h s e' (by rw [hrun]))
  · rw [mapError_of_ok hrun] at he
    cases he

end Run

/-- No statement fails with the error by which the library rejects an argument. -/
def Backend.NeverRejects (backend : Backend σ) : Prop :=
  ∀ statement server e, (backend.execute statement server).1 = .error e →
    e.isInvalidArgument = false

/-! ## Queries -/

namespace Database

open Run (LooksUp NeverRejects RejectsFirst)

variable (db : Database σ)

theorem looksUp_columns (table : String) : LooksUp (db.columns table) := by
  have hP := Run.closed_looksUp (σ := σ)
  have hsend : LooksUp (Session.send (.describe table) (db.backend.describe table)) :=
    fun _ => ⟨[table], rfl⟩
  have hrefresh : LooksUp (db.refreshColumns table) := by
    refine hP.bind hsend fun columns => ?_
    cases columns with
    | nil => exact hP.fail _
    | cons column rest =>
      have hremember : LooksUp (Session.remember (σ := σ) ⟨table, column :: rest⟩) :=
        fun s => ⟨[], (List.append_nil _).symm⟩
      exact hP.bind hremember fun _ => hP.pure _
  have hknown : LooksUp (Session.known? (σ := σ) table) := fun s => .refl s
  refine hP.bind hknown fun known => ?_
  cases known with
  | none => exact hrefresh
  | some columns => exact hP.pure columns

theorem looksUp_compileFilter (table : String) (filter : Filter) (target : ColumnTarget) :
    LooksUp (db.compileFilter table filter target) :=
  compileFilter_closed Run.closed_looksUp (db.looksUp_columns table) filter target

theorem looksUp_modify (q : Query) : LooksUp (db.modify q) :=
  modify_closed Run.closed_looksUp q (db.looksUp_columns q.table)

theorem looksUp_update (table : String) (values : Fields) (filter : Filter) :
    LooksUp (db.update table values filter) :=
  update_closed Run.closed_looksUp (db.looksUp_compileFilter table filter)
    (fun q _ => db.looksUp_modify q) values

theorem looksUp_delete (table : String) (filter : Filter) : LooksUp (db.delete table filter) :=
  delete_closed Run.closed_looksUp (db.looksUp_compileFilter table filter)
    fun q _ => db.looksUp_modify q

/-! ## Running them -/

variable {db}

theorem neverRejects_sendExecute (hdb : db.backend.NeverRejects) (statement : Statement) :
    NeverRejects (db.sendExecute statement) := fun s e he => hdb statement s.server e he

theorem isInvalidArgument_violation (table : String) {e : Error}
    (h : e.isInvalidArgument = false) : (violation table e).isInvalidArgument = false := by
  cases e with
  | backend source =>
    cases hs : source.isDuplicate <;> simp [violation, hs, Error.isInvalidArgument]
  | _ => exact h

theorem neverRejects_runInserts (hdb : db.backend.NeverRejects) (table : String)
    (plan : List InsertQuery) (done : ExecResult) :
    NeverRejects (db.runInserts table done plan) := by
  induction plan generalizing done with
  | nil => exact Run.neverRejects_pure done
  | cons q rest ih =>
    have hsend := neverRejects_sendExecute hdb (q.statement db.dialect)
    exact (hsend.mapError fun _ => isInvalidArgument_violation table).bind fun _ => ih _

theorem rejectsFirst_insertAll (hdb : db.backend.NeverRejects) (table : String) (rows : List Row)
    (upsert : Bool) : RejectsFirst (db.insertAll table rows upsert) :=
  (Run.closed_looksUp.ofExcept (db.insertPlan table rows upsert)).bind_rejectsFirst fun plan =>
    (neverRejects_runInserts hdb table plan _).rejectsFirst

theorem rejectsFirst_insertRows (hdb : db.backend.NeverRejects) (table : String)
    (rows : List Row) : RejectsFirst (db.insertRows table rows) :=
  (rejectsFirst_insertAll hdb table rows false).bind_neverRejects fun _ => Run.neverRejects_pure _

theorem rejectsFirst_execute (hdb : db.backend.NeverRejects) (q : Query) :
    RejectsFirst (db.execute q) := by
  have hsend : RejectsFirst (do
      let result ← db.sendExecute (q.statement db.dialect)
      return result.rowsAffected) :=
    ((neverRejects_sendExecute hdb _).bind fun _ => Run.neverRejects_pure _).rejectsFirst
  cases q with
  | select q => exact (Run.closed_looksUp.fail _).rejectsFirst
  | update q => exact hsend
  | delete q => exact hsend

theorem writes_reject_first (db : Database σ) (hdb : db.backend.NeverRejects) (table : String)
    (rows : List Row) (values : Fields) (filter : Filter) :
    RejectsFirst (db.insertRows table rows) ∧ RejectsFirst (db.upsertRows table rows) ∧
      RejectsFirst (db.updateRows table values filter) ∧
      RejectsFirst (db.deleteRows table filter) :=
  ⟨rejectsFirst_insertRows hdb table rows, rejectsFirst_insertAll hdb table rows true,
    (db.looksUp_update table values filter).bind_rejectsFirst fun _ => rejectsFirst_execute hdb _,
    (db.looksUp_delete table filter).bind_rejectsFirst fun q => rejectsFirst_execute hdb q⟩

/-! ## Writes to a database without tables -/

/-- Each row goes in a statement of its own, and all statements are taken. -/
def noTables : Database Unit where
  backend :=
    { dialect := .sqlite
      fetch _ := pure []
      execute _ := pure ⟨1, none⟩
      describe _ := pure [] }
  settings := ⟨1, 100, "id"⟩
  modifiers := .empty

/-- Two rows that could be sent and one whose value cannot be bound. -/
def lateArray : List Row := [[("id", .ofNat 1)], [("id", .ofNat 2)], [("id", .arr [])]]

/-- Whether the id is null: this depends on the column. -/
def withoutId : Filter := [("id", .null)]

def renamed : Fields := [("name", .str "pen")]

theorem writes_reject_first_noTables :
    noTables.backend.NeverRejects ∧
    ((noTables.insertRows "items" lateArray (.start ())).1 =
        .error (.invalidArgument (.nestedArray "id")) ∧
      (Session.start ()).LookedUp (noTables.insertRows "items" lateArray (.start ())).2) ∧
    ((noTables.upsertRows "items" lateArray (.start ())).1 =
        .error (.invalidArgument (.nestedArray "id")) ∧
      (Session.start ()).LookedUp (noTables.upsertRows "items" lateArray (.start ())).2) ∧
    ((noTables.updateRows "items" renamed withoutId (.start ())).1 =
        .error (.invalidArgument (.unknownTable "items")) ∧
      (Session.start ()).LookedUp (noTables.updateRows "items" renamed withoutId (.start ())).2) ∧
    (noTables.deleteRows "items" withoutId (.start ())).1 =
        .error (.invalidArgument (.unknownTable "items")) ∧
      (Session.start ()).LookedUp (noTables.deleteRows "items" withoutId (.start ())).2 := by
  have hdb : noTables.backend.NeverRejects := fun _ _ _ h => by cases h
  obtain ⟨hinserts, hupserts, hupdates, hdeletes⟩ :=
    writes_reject_first noTables hdb "items" lateArray renamed withoutId
  exact ⟨hdb, ⟨rfl, hinserts _ _ rfl rfl⟩, ⟨rfl, hupserts _ _ rfl rfl⟩,
    ⟨rfl, hupdates _ _ rfl rfl⟩, rfl, hdeletes _ _ rfl rfl⟩

end Database
end FilterSql

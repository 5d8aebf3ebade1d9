import FilterSql.Proofs.Database.Coverage

/-!
# FilterSql.Proofs.Database.Interrupted

What is left of an insert of many rows when it fails. Statements are not taken back: the rows are in
the table up to those of the statement that failed.

* `Backend.answers_split`: the statements before the first failure, and those behind it.
* `Database.Interrupted`: how far a call got.
* `Database.bulk_interrupted`: a call that fails did nothing, or it got as far as that.
-/

namespace FilterSql

variable {σ : Type}

theorem Backend.answers_split {backend : Backend σ} {statements : List Statement} {server : σ}
    {results : List ExecResult} {e : Error} {rest : List (Except Error ExecResult)}
    (h : backend.answers statements server = results.map .ok ++ .error e :: rest) :
    ∃ done failed unsent, statements = done ++ failed :: unsent ∧ done.length = results.length ∧
      backend.answers (done ++ [failed]) server = results.map .ok ++ [.error e] := by
  induction results generalizing statements server with
  | nil =>
    cases statements with
    | nil => cases h
    | cons statement statements =>
      obtain ⟨hfirst, -⟩ := List.cons.inj h
      exact ⟨[], statement, statements, rfl, rfl, congrArg ([·]) hfirst⟩
  | cons result results ih =>
    cases statements with
    | nil => cases h
    | cons statement statements =>
      obtain ⟨hfirst, hrest⟩ := List.cons.inj h
      obtain ⟨done, failed, unsent, rfl, hlength, hanswers⟩ := ih hrest
      refine ⟨statement :: done, failed, unsent, rfl, congrArg (· + 1) hlength, ?_⟩
      rw [List.cons_append, Backend.answers, hfirst, hanswers]
      rfl

namespace Database

variable {db : Database σ} {table : String} {columns : List String} {onConflict : OnConflict}
  {rows : List Row} {batches : List (List Row)} {statements : List Statement}
  {before after : Session σ} {told : Error}

/-- How far a call got that was told of a failure: the statements for the rows of `applied` were
sent and succeeded, the one for those of `refused` was sent and failed, and nothing was sent behind
it. -/
def Interrupted (db : Database σ) (table : String) (columns : List String)
    (onConflict : OnConflict) (before after : Session σ) (told : Error)
    (applied refused : List Row) : Prop :=
  ∃ (batches : List (List Row)) (done : List Statement) (failed : Statement)
    (results : List ExecResult) (e : Error),
    applied = batches.flatten ∧
      List.Forall₂ (fun batch statement =>
        Statement.Inserts db.dialect table columns onConflict batch statement) batches done ∧
      failed.Inserts db.dialect table columns onConflict refused ∧
      db.backend.answers (done ++ [failed]) before.server = results.map .ok ++ [.error e] ∧
      e.ToldAs table told ∧
      after.calls = before.calls ++ (done ++ [failed]).map .execute

/-- The rows of the statements that succeeded come before all the others. -/
theorem Outcome.interrupted {α : Type} {view : ExecResult → α}
    (h : db.Outcome table view statements before (.error told, after))
    (hcovers : db.Covers table columns onConflict rows batches statements) :
    ∃ applied refused unsent, applied ++ refused ++ unsent = rows ∧ refused ≠ [] ∧
      db.Interrupted table columns onConflict before after told applied refused := by
  obtain ⟨results, ⟨-, hok, -⟩ | ⟨e, rest, told', hanswers, herror, htold, -, hcalls⟩⟩ := h
  · cases hok
  cases herror
  obtain ⟨done, failed, unsent, rfl, hlength, hsent⟩ := Backend.answers_split hanswers
  have hdone := List.forall₂_take_append _ _ _ hcovers.inserts
  obtain ⟨refused, left, hrefused, -, hleft⟩ := List.forall₂_cons_right_iff.1
    (List.forall₂_drop_append _ _ _ hcovers.inserts)
  have hbatches : batches.take done.length ++ refused :: left = batches := by
    rw [← hleft, List.take_append_drop]
  refine ⟨(batches.take done.length).flatten, refused, left.flatten, ?rows, ?refused,
    ⟨_, done, failed, results, e, rfl, hdone, hrefused, hsent, htold, ?calls⟩⟩
  case rows =>
    calc (batches.take done.length).flatten ++ refused ++ left.flatten
        = (batches.take done.length ++ refused :: left).flatten := by simp
      _ = rows := by rw [hbatches, hcovers.rows]
  case refused =>
    rintro rfl
    have hmem : [] ∈ batches := hbatches ▸ by simp
    exact absurd (hcovers.length [] hmem).1 (by decide)
  case calls =>
    rw [hcalls, ← hlength, List.append_cons, List.take_left' (by simp)]

/-- A call for rows that fails was refused before anything was sent, or it was interrupted. -/
theorem insertAll_interrupted {first : Row} {rest : List Row} {upsert : Bool}
    (h : db.insertAll table (first :: rest) upsert before = (.error told, after)) :
    told.isInvalidArgument = true ∧ after = before ∨
      ∃ applied refused unsent, applied ++ refused ++ unsent = first :: rest ∧ refused ≠ [] ∧
        db.Interrupted table (Fields.keys first)
          (.of (Fields.keys first) (if upsert then some db.settings.idColumn else none)) before
          after told applied refused := by
  cases hplan : db.insertPlan table (first :: rest) upsert with
  | error e =>
    rw [insertAll, hplan] at h
    cases h
    exact .inl ⟨insertPlan_error hplan, rfl⟩
  | ok plan =>
    obtain ⟨batches, hcovers⟩ := covers_of_insertPlan hplan
    exact .inr (Outcome.interrupted (h ▸ insertAll_outcome hplan before) hcovers)

theorem insertAll_of_insertRows_error (h : db.insertRows table rows before = (.error told, after)) :
    db.insertAll table rows false before = (.error told, after) := by
  rcases hrun : db.insertAll table rows false before with ⟨_ | result, s⟩
  · rw [insertRows_of_error hrun] at h
    cases h
    rfl
  · rw [insertRows_of_ok hrun] at h
    cases h

/-- After a failure that is not the caller's own, the rows up to some place are in the table, and of
the rows of the statement that failed there is at least one. -/
theorem bulk_interrupted (db : Database σ) (table : String) (first : Row) (rest : List Row)
    (before after : Session σ) (told : Error) :
    (db.insertRows table (first :: rest) before = (.error told, after) →
      told.isInvalidArgument = true ∧ after = before ∨
        ∃ applied refused unsent, applied ++ refused ++ unsent = first :: rest ∧ refused ≠ [] ∧
          db.Interrupted table (Fields.keys first) .fail before after told applied refused) ∧
    (db.upsertRows table (first :: rest) before = (.error told, after) →
      told.isInvalidArgument = true ∧ after = before ∨
        ∃ applied refused unsent, applied ++ refused ++ unsent = first :: rest ∧ refused ≠ [] ∧
          db.Interrupted table (Fields.keys first)
            (.of (Fields.keys first) (some db.settings.idColumn)) before after told applied
            refused) :=
  ⟨fun h => insertAll_interrupted (insertAll_of_insertRows_error h),
    fun h => insertAll_interrupted h⟩

end Database
end FilterSql

import FilterSql.Proofs.Database.Prepared
import FilterSql.Proofs.Database.Refused
import FilterSql.Proofs.Filter.Conditions
import FilterSql.Proofs.Paging.Drawn

/-!
# FilterSql.Proofs.Modifier.SoftDelete

What becomes of the queries on a table with a deletion column.

* `Database.prepare_softDelete`: the modifier is applied to the query that would be there without
  it.
* `Database.delete_softDelete`, `Database.deleteRows_softDelete`: one UPDATE marks the rows that
  would be deleted, and nothing is deleted.
* `Database.select_softDelete`: marked rows are out of sight, unless a key of the filter tests the
  column.
* `Database.build_drawsUnmarked`: so they are in counts and pages.
-/

namespace FilterSql

variable {σ α β : Type}

namespace Database

variable {db : Database σ} {table column : String} {known : TableColumns} {s s' s₁ : Session σ}
  {filter : Filter} {target : ColumnTarget} {make : List CompiledCondition → Except Error Query}

/-! ## The modifier -/

theorem modify_softDelete (hdb : db.modifiers = ⟨[SoftDelete.modifier ⟨column⟩]⟩) {q : Query}
    (h : db.columns q.table s = (.ok known, s')) :
    db.modify q s = (.ok (SoftDelete.modify ⟨column⟩ ⟨q.table, some known⟩ q), s') := by
  have hsome : db.modifiers.isEmpty = false := by
    rw [hdb]
    rfl
  rw [modify, hsome, if_neg Bool.false_ne_true, Run.bind_of_ok h, hdb]
  rfl

/-- The modifier is applied to what would be there without it, and the columns are known then. -/
theorem prepare_softDelete (hdb : db.modifiers = ⟨[SoftDelete.modifier ⟨column⟩]⟩)
    (h : db.columns table s = (.ok known, s'))
    (hmake : ∀ conditions q, make conditions = .ok q → q.table = table) :
    db.prepare table filter target make s =
      match (db.plain.prepare table filter target make s).1 with
      | .error e => (.error e, (db.compileFilter table filter target s).2)
      | .ok q => (.ok (SoftDelete.modify ⟨column⟩ ⟨table, some known⟩ q), s') := by
  rcases hcompile : db.compileFilter table filter target s with ⟨r, s₁⟩
  obtain ⟨-, hcolumns⟩ := compileFilter_known h hcompile
  rw [prepare_plain db hcompile]
  cases r with
  | error e => exact Run.bind_of_error hcompile
  | ok conditions =>
    rw [prepare, Run.bind_of_ok hcompile]
    cases hq : make conditions with
    | error e => simp only [Except.bind, hq]; rfl
    | ok q =>
      simp only [Except.bind, hq]
      obtain rfl := hmake conditions q hq
      exact modify_softDelete hdb hcolumns

end Database

/-! ## Keys of filters -/

/-- Whether some key of the filter tests the column, under whatever alias. -/
def Filter.tests (filter : Filter) (column : String) : Bool :=
  filter.any fun entry => baseColumn (Operator.splitKey entry.1).1 == column

theorem columns_of_conditions {filter : Filter} {conditions : List Condition}
    (h : filter.conditions = .ok conditions) :
    conditions.map Condition.column = filter.map fun entry => (Operator.splitKey entry.1).1 := by
  induction filter generalizing conditions with
  | nil =>
    cases h
    rfl
  | cons entry rest ih =>
    rw [Filter.conditions] at h
    split at h
    case h_1 => cases h
    case h_2 c hc =>
      split at h
      case h_1 => cases h
      case h_2 cs hcs =>
        cases h
        have hcolumn : c.column = (Operator.splitKey entry.1).1 := by
          simp only [Condition.parse] at hc
          split at hc
          · cases hc
          · cases hc
            rfl
        rw [List.map_cons, List.map_cons, ih hcs, hcolumn]

theorem columns_of_compileFrom {known : Option TableColumns} {target : ColumnTarget}
    {used : ParamNames} {conditions : List Condition} {compiled : List CompiledCondition}
    (h : compileFrom known target used conditions = .ok compiled) :
    compiled.map CompiledCondition.column = conditions.map Condition.column := by
  have hpairs := forall₂_of_compileFrom h
  clear h
  induction hpairs with
  | nil => rfl
  | cons hc _ ih => rw [List.map_cons, List.map_cons, hc.column, ih]

/-- The compiler sees a column in the same keys. -/
theorem references_of_compileFilter {db : Database σ} {table : String} {filter : Filter}
    {target : ColumnTarget} {s s₁ : Session σ} {compiled : List CompiledCondition}
    (h : db.compileFilter table filter target s = (.ok compiled, s₁)) {column : String}
    (hcolumn : '.' ∉ column.toList) :
    CompiledCondition.references compiled column = filter.tests column := by
  have hcolumns : compiled.map CompiledCondition.column =
      filter.map fun entry => (Operator.splitKey entry.1).1 := by
    rw [Database.compileFilter] at h
    cases hconditions : filter.conditions with
    | error e =>
      rw [hconditions] at h
      cases h
    | ok conditions =>
      rw [← columns_of_conditions hconditions]
      rw [hconditions] at h
      simp only [Run.ofExcept_ok, Run.pure_bind] at h
      split at h
      · rw [Run.bind_apply] at h
        split at h
        · rw [Run.ofExcept_apply] at h
          exact columns_of_compileFrom (Prod.mk.inj h).1
        · cases h
      · rw [Run.ofExcept_apply] at h
        exact columns_of_compileFrom (Prod.mk.inj h).1
  calc CompiledCondition.references compiled column
      = (compiled.map CompiledCondition.column).any fun c => baseColumn c == column := by
        rw [CompiledCondition.references, baseColumn_of_not_mem hcolumn, List.any_map]
        rfl
    _ = filter.tests column := by
        rw [hcolumns, List.any_map]
        rfl

/-! ## Rows that are marked -/

/-- A run asks for columns and then sends one statement, and nothing else. -/
def Run.Executes (statement : Statement) (run : Run (Session σ) α) (s : Session σ) : Prop :=
  ∃ tables : List String,
    (run s).2.calls = s.calls ++ tables.map .describe ++ [.execute statement]

/-- A run fails before it sends a statement. -/
def Run.FailsFirst (e : Error) (run : Run (Session σ) α) (s : Session σ) : Prop :=
  (run s).1 = .error e ∧ s.LookedUp (run s).2

/-- A statement with the clause of another one that deletes: it sets a column of the same rows to
the current time, and nothing else. -/
def Marks (dialect : Dialect) (table column : String) (deleting marking : Statement) : Prop :=
  ∃ clause : List Sql.Piece,
    deleting = .ofPieces dialect (.text "DELETE FROM " :: .name table :: clause) ∧
    marking = .ofPieces dialect (.text "UPDATE " :: .name table :: .text " SET " ::
      .name column :: .text " = " :: .bind .now :: clause)

theorem marks_of_toUpdate (dialect : Dialect) (q : DeleteQuery) {column : String}
    (hcolumn : '.' ∉ column.toList) : Marks dialect q.table column (q.statement dialect)
      ((q.toUpdate.set column (some .now)).statement dialect) := by
  refine ⟨Sql.wherePieces (CompiledCondition.groups q.conditions ++ q.extra), rfl, ?_⟩
  simp [UpdateQuery.statement, UpdateQuery.pieces, DeleteQuery.toUpdate, UpdateQuery.set,
    UpdateQuery.assignmentPieces, baseColumn_of_not_mem hcolumn, Sql.commaSeparated,
    Sql.separated, Sql.valuePieces]

namespace Database

variable {db : Database σ} {table column : String} {known : TableColumns} {s s' after : Session σ}
  {filter : Filter}

theorem execute_update_calls (db : Database σ) (q : UpdateQuery) (s : Session σ) :
    (db.execute (.update q) s).2.calls = s.calls ++ [.execute (q.statement db.dialect)] := by
  have hcalls : (db.sendExecute (q.statement db.dialect) s).2.calls =
      s.calls ++ [.execute (q.statement db.dialect)] := rfl
  have hrun : db.execute (.update q) = (do
      let result ← db.sendExecute (q.statement db.dialect)
      return result.rowsAffected) := rfl
  rw [hrun]
  rcases hsend : db.sendExecute (q.statement db.dialect) s with ⟨e | result, after⟩
  · rw [hsend] at hcalls
    rw [Run.bind_of_error hsend]
    exact hcalls
  · rw [hsend] at hcalls
    rw [Run.bind_of_ok hsend]
    exact hcalls

section Execute

variable {build : Run (Session σ) α} {f : α → Query}

theorem executes_update (hlooks : Run.LooksUp build) {a : α} (hbuild : build s = (.ok a, after))
    {q : UpdateQuery} (hq : f a = .update q) :
    Run.Executes (q.statement db.dialect) (do let a ← build; db.execute (f a)) s := by
  obtain ⟨tables, hcalls⟩ := hlooks s
  rw [hbuild] at hcalls
  refine ⟨tables, ?_⟩
  rw [Run.bind_of_ok hbuild, hq, execute_update_calls, hcalls]

theorem failsFirst_of_build (hlooks : Run.LooksUp build) {e : Error}
    (hbuild : build s = (.error e, after)) :
    Run.FailsFirst e (do let a ← build; db.execute (f a)) s := by
  have hlooked := hlooks s
  rw [hbuild] at hlooked
  rw [Run.FailsFirst, Run.bind_of_error hbuild]
  exact ⟨rfl, hlooked⟩

end Execute

/-- What would be deleted is marked. -/
theorem delete_softDelete (hdb : db.modifiers = ⟨[SoftDelete.modifier ⟨column⟩]⟩)
    (h : db.columns table s = (.ok known, s')) (hcontains : known.contains column = true)
    {q : Query} (hq : (db.plain.delete table filter s).1 = .ok q) :
    ∃ d : DeleteQuery, d.table = table ∧ q = .delete d ∧
      db.delete table filter s = (.ok (.update (d.toUpdate.set column (some .now))), s') := by
  cases hempty : filter.isEmpty with
  | true =>
    rw [delete, hempty] at hq
    cases hq
  | false =>
    rw [delete_eq_prepare _ _ hempty] at hq
    rw [delete_eq_prepare _ _ hempty, prepare_softDelete hdb h (by rintro _ _ ⟨⟩; rfl), hq]
    rcases hcompile : db.compileFilter table filter .unqualified s with ⟨r, s₁⟩
    rw [prepare_plain db hcompile] at hq
    cases r with
    | error e => cases hq
    | ok conditions =>
      cases hq
      refine ⟨DeleteQuery.ofTable table conditions, rfl, rfl, ?_⟩
      simp [SoftDelete.modify, SoftDelete.appliesTo, hcontains]

theorem delete_error (hdb : db.modifiers = ⟨[SoftDelete.modifier ⟨column⟩]⟩)
    (h : db.columns table s = (.ok known, s')) {e : Error}
    (he : (db.plain.delete table filter s).1 = .error e) :
    (db.delete table filter s).1 = .error e := by
  cases hempty : filter.isEmpty with
  | true =>
    rw [delete, hempty] at he ⊢
    exact he
  | false =>
    rw [delete_eq_prepare _ _ hempty] at he ⊢
    rw [prepare_softDelete hdb h (by rintro _ _ ⟨⟩; rfl), he]

theorem deleteRows_softDelete (hdb : db.modifiers = ⟨[SoftDelete.modifier ⟨column⟩]⟩)
    (hcolumn : '.' ∉ column.toList) (h : db.columns table s = (.ok known, s'))
    (hcontains : known.contains column = true) {q : Query}
    (hq : (db.plain.delete table filter s).1 = .ok q) :
    ∃ marking, Marks db.dialect table column (q.statement db.dialect) marking ∧
      Run.Executes marking (db.deleteRows table filter) s := by
  obtain ⟨d, rfl, rfl, hdelete⟩ := delete_softDelete hdb h hcontains hq
  exact ⟨_, marks_of_toUpdate db.dialect d hcolumn,
    executes_update (db.looksUp_delete _ filter) hdelete rfl⟩

theorem deleteRows_failsFirst (hdb : db.modifiers = ⟨[SoftDelete.modifier ⟨column⟩]⟩)
    (h : db.columns table s = (.ok known, s')) {e : Error}
    (he : (db.plain.delete table filter s).1 = .error e) :
    Run.FailsFirst e (db.deleteRows table filter) s :=
  failsFirst_of_build (db.looksUp_delete table filter)
    (Prod.ext (delete_error hdb h he) rfl : db.delete table filter s = (.error e, _))

end Database

/-! ## Rows that are not marked -/

/-- The groups that keep marked rows out of sight, unless the filter asks about the column. -/
def unmarked (filter : Filter) (column : String) : List Sql.Group :=
  if filter.tests column then [] else [.all [.atom ⟨⟨some mainAlias, column⟩, .null false⟩]]

theorem alive_eq (column : String) : (SoftDelete.mk column).alive =
    .all [.atom ⟨⟨some mainAlias, column⟩, .null false⟩] := by
  simp [SoftDelete.alive, ColumnRef.of, mainAlias, Text.cutFirst?, String.toList_append]

/-- Columns are asked for, and then only what draws from the rows of a filter that are not marked is
sent. -/
def Database.DrawsUnmarked (db : Database σ) (column : String) (request : SelectRequest)
    (run : Run (Session σ) α) (s : Session σ) : Prop :=
  ∃ (tables : List String) (sent : List Call),
    (run s).2.calls = s.calls ++ tables.map .describe ++ sent ∧
    ∀ call ∈ sent, ∃ conditions,
      (db.compileFilter request.table request.filter .qualified s).1 = .ok conditions ∧
      Draws db.dialect request.table conditions (unmarked request.filter column) call

namespace Database

variable {db : Database σ} {table column : String} {known : TableColumns} {s s' s₁ : Session σ}

theorem select_softDelete (hdb : db.modifiers = ⟨[SoftDelete.modifier ⟨column⟩]⟩)
    (hcolumn : '.' ∉ column.toList) (h : db.columns table s = (.ok known, s'))
    (hcontains : known.contains column = true) (columns : Selection) (filter : Filter)
    (orderBy : OrderBy) :
    db.select table columns filter orderBy s =
      match db.compileFilter table filter .qualified s with
      | (.error e, s₁) => (.error e, s₁)
      | (.ok conditions, _) => (.ok { SelectQuery.ofTable table with
          columns, conditions, orderBy, extra := unmarked filter column }, s') := by
  rcases hcompile : db.compileFilter table filter .qualified s with ⟨r, s₁⟩
  rw [select_eq_prepare, Run.bind_apply, prepare_softDelete hdb h (by rintro _ _ ⟨⟩; rfl),
    prepare_plain db hcompile, hcompile]
  cases r with
  | error e => rfl
  | ok conditions =>
    have hreferences := references_of_compileFilter hcompile hcolumn
    simp only [Except.bind, SoftDelete.modify, SoftDelete.appliesTo, Option.any_some, hcontains,
      hreferences, alive_eq, unmarked]
    cases filter.tests column <;> rfl

theorem build_drawsUnmarked (hdb : db.modifiers = ⟨[SoftDelete.modifier ⟨column⟩]⟩)
    (hcolumn : '.' ∉ column.toList) {request : SelectRequest}
    (h : db.columns request.table s = (.ok known, s'))
    (hcontains : known.contains column = true) {use : SelectQuery → Run (Session σ) α}
    (huse : ∀ q (t : Session σ), t.Sent (q.Draws db.dialect) (use q t).2) :
    db.DrawsUnmarked column request (request.build db >>= use) s := by
  have hselect := select_softDelete hdb hcolumn h hcontains request.columns request.filter
    request.orderBy
  rcases hcompile : db.compileFilter request.table request.filter .qualified s with ⟨r, s₁⟩
  rw [hcompile] at hselect
  cases r with
  | error e =>
    obtain ⟨tables, hcalls⟩ := db.looksUp_compileFilter request.table request.filter .qualified s
    rw [hcompile] at hcalls
    have hbuild : request.build db s = (.error e, s₁) := Run.bind_of_error hselect
    refine ⟨tables, [], ?_, fun _ hcall => absurd hcall List.not_mem_nil⟩
    rw [Run.bind_of_error hbuild, List.append_nil]
    exact hcalls
  | ok conditions =>
    obtain ⟨tables, hcalls⟩ := db.looksUp_columns request.table s
    rw [h] at hcalls
    obtain ⟨q, hbuild, htable, hconditions, hextra⟩ : ∃ q : SelectQuery,
        request.build db s = (.ok q, s') ∧ q.table = request.table ∧ q.conditions = conditions ∧
          q.extra = unmarked request.filter column :=
      ⟨_, Run.bind_of_ok hselect, rfl, rfl, rfl⟩
    obtain ⟨sent, hsent, hdraws⟩ := huse q s'
    rw [SelectQuery.Draws, htable, hconditions, hextra] at hdraws
    refine ⟨tables, sent, ?_, fun call hcall => ⟨conditions, ?_, hdraws call hcall⟩⟩
    · rw [Run.bind_of_ok hbuild, hsent, hcalls]
    · rw [hcompile]

end Database

end FilterSql

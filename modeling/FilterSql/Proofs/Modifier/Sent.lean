import FilterSql.Proofs.Modifier.SoftDelete

/-!
# FilterSql.Proofs.Modifier.Sent

All that is sent by a database that marks rows instead of deleting them.

* `EndAlike`, `BuildsAlike`: two runs come to the same.
* `Operation.run_endAlike`: a table without the column is treated as if nothing was ever marked.
* `Database.update_plain_of_ok`: updates stay as they are.
* `Database.MarksRows`, `Database.LeavesRows`: what is sent for a table with the column and for one
  without it.
* `Database.sent_softDelete`: a table whose columns can be had is one of them.
-/

namespace FilterSql

variable {σ α β : Type}

/-! ## What stays as it is -/

def Call.isStatement : Call → Bool
  | .describe _ => false
  | _ => true

/-- The statements among the calls. -/
def Session.statements (s : Session σ) : List Call := s.calls.filter Call.isStatement

theorem Session.LookedUp.statements_eq {s s' : Session σ} (h : s.LookedUp s') :
    s'.statements = s.statements := by
  obtain ⟨tables, hcalls⟩ := h
  have hnone : (tables.map Call.describe).filter Call.isStatement = [] := by
    rw [List.filter_eq_nil_iff]
    intro call hcall
    obtain ⟨table, -, rfl⟩ := List.mem_map.1 hcall
    exact Bool.false_ne_true
  rw [statements, hcalls, List.filter_append, hnone, List.append_nil, statements]

/-- Two runs come to the same: to one result in one session, or to one failure after the same
statements. -/
def EndAlike (x y : Except Error α × Session σ) : Prop :=
  x = y ∨ ∃ e, x.1 = .error e ∧ y.1 = .error e ∧ x.2.statements = y.2.statements

theorem EndAlike.bind {run run' : Run (Session σ) α} {s s' : Session σ}
    (h : EndAlike (run s) (run' s')) {next next' : α → Run (Session σ) β}
    (hnext : ∀ a, next a = next' a) : EndAlike ((run >>= next) s) ((run' >>= next') s') := by
  rw [show next = next' from funext hnext]
  rcases h with h | ⟨e, hx, hy, hcalls⟩
  · left
    rw [Run.bind_apply, Run.bind_apply, h]
  · right
    have hrun : run s = (.error e, (run s).2) := Prod.ext hx rfl
    have hrun' : run' s' = (.error e, (run' s').2) := Prod.ext hy rfl
    exact ⟨e, by rw [Run.bind_of_error hrun], by rw [Run.bind_of_error hrun'],
      by rw [Run.bind_of_error hrun, Run.bind_of_error hrun']; exact hcalls⟩

theorem EndAlike.result_eq {x y : Except Error α × Session σ} (h : EndAlike x y) :
    x.1 = y.1 ∧ x.2.statements = y.2.statements := by
  rcases h with rfl | ⟨e, hx, hy, hcalls⟩
  · exact ⟨rfl, rfl⟩
  · exact ⟨hx.trans hy.symm, hcalls⟩

/-- A query is built in one session as in the other, and as it would be in the first of them. -/
structure BuildsAlike (run run' : Run (Session σ) α) (s s' : Session σ) : Prop where
  ends : EndAlike (run s) (run' s')
  result : (run s).1 = (run' s).1

namespace BuildsAlike

variable {run run' : Run (Session σ) α} {s s' : Session σ}

theorem reject (fault : Fault) (h : s'.statements = s.statements) :
    BuildsAlike (.reject fault : Run (Session σ) α) (.reject fault) s s' :=
  ⟨.inr ⟨_, rfl, rfl, h.symm⟩, rfl⟩

theorem convert (h : BuildsAlike run run' s s') (f : α → Except Error β) :
    BuildsAlike (do let a ← run; .ofExcept (f a)) (do let a ← run'; .ofExcept (f a)) s s' := by
  refine ⟨h.ends.bind fun _ => rfl, ?_⟩
  have hresult := h.result
  rw [Run.bind_apply, Run.bind_apply]
  rcases hrun : run s with ⟨r, after⟩
  rcases hrun' : run' s with ⟨r', after'⟩
  rw [hrun, hrun'] at hresult
  obtain rfl : r = r' := hresult
  cases r with
  | error e => rfl
  | ok a => simp only [Run.ofExcept_apply]

end BuildsAlike

namespace Database

variable {db : Database σ} {table column : String} {known : TableColumns} {s s' : Session σ}
  {filter : Filter} {target : ColumnTarget} {make : List CompiledCondition → Except Error Query}

theorem statements_of_columns (h : db.columns table s = (.ok known, s')) :
    s'.statements = s.statements := by
  have hlooks := (db.looksUp_columns table s).statements_eq
  rwa [h] at hlooks

/-- Where the modifier has nothing to do, only the columns are asked for in addition. -/
theorem prepare_buildsAlike (hdb : db.modifiers = ⟨[SoftDelete.modifier ⟨column⟩]⟩)
    (h : db.columns table s = (.ok known, s'))
    (hmake : ∀ conditions q, make conditions = .ok q → q.table = table ∧
      SoftDelete.modify ⟨column⟩ ⟨table, some known⟩ q = q) :
    BuildsAlike (db.prepare table filter target make) (db.plain.prepare table filter target make)
      s s' := by
  rcases hcompile : db.compileFilter table filter target s with ⟨r, s₁⟩
  obtain ⟨hagain, -⟩ := compileFilter_known h hcompile
  have hstatements : s₁.statements = s'.statements := by
    have hfirst := (db.looksUp_compileFilter table filter target s).statements_eq
    rw [hcompile] at hfirst
    exact hfirst.trans (statements_of_columns h).symm
  have hplain : db.plain.prepare table filter target make s = (r.bind make, s₁) :=
    prepare_plain db hcompile
  have hplain' : db.plain.prepare table filter target make s' = (r.bind make, s') :=
    prepare_plain db hagain
  cases hr : r.bind make with
  | error e =>
    rw [hr] at hplain hplain'
    have hprepare : db.prepare table filter target make s = (.error e, s₁) := by
      refine (prepare_softDelete hdb h fun conditions q hq => (hmake conditions q hq).1).trans ?_
      simp only [hplain, hcompile]
    exact ⟨.inr ⟨e, by rw [hprepare], by rw [hplain'], by rw [hprepare, hplain', hstatements]⟩,
      by rw [hprepare, hplain]⟩
  | ok q =>
    rw [hr] at hplain hplain'
    obtain ⟨conditions, hq⟩ : ∃ conditions, make conditions = .ok q := by
      cases r with
      | error e => cases hr
      | ok conditions => exact ⟨conditions, hr⟩
    have hprepare : db.prepare table filter target make s = (.ok q, s') := by
      refine (prepare_softDelete hdb h fun conditions q hq => (hmake conditions q hq).1).trans ?_
      simp only [hplain, (hmake conditions q hq).2]
    exact ⟨.inl (hprepare.trans hplain'.symm), by rw [hprepare, hplain]⟩

theorem modify_of_not_contains (h : known.contains column = false) (q : Query) :
    SoftDelete.modify ⟨column⟩ ⟨table, some known⟩ q = q := by
  simp [SoftDelete.modify, SoftDelete.appliesTo, h]

theorem modify_update (context : ModifierContext) (q : UpdateQuery) :
    SoftDelete.modify ⟨column⟩ context (.update q) = .update q := by
  rw [SoftDelete.modify]
  split <;> rfl

theorem select_buildsAlike (hdb : db.modifiers = ⟨[SoftDelete.modifier ⟨column⟩]⟩)
    (h : db.columns table s = (.ok known, s')) (hcontains : known.contains column = false)
    (columns : Selection) (filter : Filter) (orderBy : OrderBy) :
    BuildsAlike (db.select table columns filter orderBy)
      (db.plain.select table columns filter orderBy) s s' := by
  rw [select_eq_prepare, select_eq_prepare]
  refine (prepare_buildsAlike hdb h ?_).convert Query.toSelect
  rintro conditions q ⟨⟩
  exact ⟨rfl, modify_of_not_contains hcontains _⟩

theorem delete_buildsAlike (hdb : db.modifiers = ⟨[SoftDelete.modifier ⟨column⟩]⟩)
    (h : db.columns table s = (.ok known, s')) (hcontains : known.contains column = false)
    (filter : Filter) :
    BuildsAlike (db.delete table filter) (db.plain.delete table filter) s s' := by
  cases hempty : filter.isEmpty with
  | true =>
    rw [delete, delete, hempty]
    exact .reject _ (statements_of_columns h)
  | false =>
    rw [delete_eq_prepare _ _ hempty, delete_eq_prepare _ _ hempty]
    refine prepare_buildsAlike hdb h ?_
    rintro conditions q ⟨⟩
    exact ⟨rfl, modify_of_not_contains hcontains _⟩

theorem update_buildsAlike (hdb : db.modifiers = ⟨[SoftDelete.modifier ⟨column⟩]⟩)
    (h : db.columns table s = (.ok known, s')) (values : Fields) (filter : Filter) :
    BuildsAlike (db.update table values filter) (db.plain.update table values filter) s s' := by
  cases hvalues : values.isEmpty with
  | true =>
    rw [update, update, hvalues]
    exact .reject _ (statements_of_columns h)
  | false =>
    cases hempty : filter.isEmpty with
    | true =>
      rw [update, update, hvalues, hempty]
      exact .reject _ (statements_of_columns h)
    | false =>
      rw [update_eq_prepare _ _ hvalues hempty, update_eq_prepare _ _ hvalues hempty]
      refine (prepare_buildsAlike hdb h ?_).convert Query.toUpdate
      intro conditions q hq
      obtain ⟨u, htable, rfl⟩ := exists_update_of_made hq
      exact ⟨htable, modify_update _ u⟩

theorem eq_of_modify_update (hdb : db.modifiers = ⟨[SoftDelete.modifier ⟨column⟩]⟩)
    {q : UpdateQuery} {q' : Query} (h : db.modify (.update q) s = (.ok q', after)) :
    q' = .update q := by
  rcases hcolumns : db.columns q.table s with ⟨e | known, s₁⟩
  · have hsome : db.modifiers.isEmpty = false := by
      rw [hdb]
      rfl
    have hfails : db.modify (.update q) s = (.error e, s₁) := by
      rw [modify, hsome, if_neg Bool.false_ne_true]
      exact Run.bind_of_error hcolumns
    rw [hfails] at h
    cases h
  · rw [modify_softDelete (q := .update q) hdb hcolumns] at h
    cases h
    exact modify_update _ _

/-- Updates stay as they are, whatever is known of the table. -/
theorem update_plain_of_ok (hdb : db.modifiers = ⟨[SoftDelete.modifier ⟨column⟩]⟩)
    {values : Fields} {q : UpdateQuery} (h : db.update table values filter s = (.ok q, after)) :
    (db.plain.update table values filter s).1 = .ok q := by
  cases hvalues : values.isEmpty with
  | true =>
    rw [update, hvalues] at h
    cases h
  | false =>
    cases hempty : filter.isEmpty with
    | true =>
      rw [update, hvalues, hempty] at h
      cases h
    | false =>
      rw [update_eq_prepare _ _ hvalues hempty] at h ⊢
      rw [Run.bind_apply] at h
      split at h
      case h_2 => cases h
      case h_1 q' s₁ hprepare =>
        obtain ⟨conditions, made, s₂, hmade, hplain, hmodify⟩ := prepare_of_ok hprepare
        obtain ⟨u, -, rfl⟩ := exists_update_of_made hmade
        obtain rfl := eq_of_modify_update hdb hmodify
        cases h
        rw [Run.bind_of_ok hplain]
        rfl

/-- Rows are inserted without regard to the modifiers. -/
theorem insertAll_plain (db : Database σ) (table : String) (rows : List Row) (upsert : Bool) :
    db.plain.insertAll table rows upsert = db.insertAll table rows upsert := by
  have hruns : ∀ (plan : List InsertQuery) (done : ExecResult),
      db.plain.runInserts table done plan = db.runInserts table done plan := by
    intro plan
    induction plan with
    | nil => exact fun _ => rfl
    | cons q rest ih =>
      intro done
      rw [runInserts, runInserts]
      congr 1
      funext result
      exact ih _
  rw [insertAll, insertAll, show db.plain.runInserts table ⟨0, none⟩ = _ from funext fun plan =>
    hruns plan _]
  rfl

end Database

namespace SeekWalk

theorem nextAll_plain (db : Database σ) (n : Nat) : nextAll db.plain n = nextAll db n := by
  induction n with
  | zero => rfl
  | succ n ih =>
    rw [nextAll, nextAll, ih]
    rfl

theorem through_plain (db : Database σ) (pageSize : Nat) (idColumn cursor : Option String)
    (steps : Nat) (q : SelectQuery) :
    through db.plain pageSize idColumn cursor steps q =
      through db pageSize idColumn cursor steps q := by
  rw [through, through, nextAll_plain]
  rfl

end SeekWalk

variable {db : Database σ} {table column : String} {known : TableColumns} {s s' : Session σ}

theorem SelectRequest.build_endAlike (hdb : db.modifiers = ⟨[SoftDelete.modifier ⟨column⟩]⟩)
    (request : SelectRequest) (h : db.columns request.table s = (.ok known, s'))
    (hcontains : known.contains column = false) :
    EndAlike (request.build db s) (request.build db.plain s') := by
  have hselect := Database.select_buildsAlike hdb h hcontains request.columns request.filter
    request.orderBy
  exact hselect.ends.bind fun _ => rfl

namespace Operation

/-- The table with the rows that an operation is about; inserts have none yet. -/
def table? : Operation → Option String
  | .fetch request => some request.table
  | .count request _ => some request.table
  | .offsetPages request _ _ _ => some request.table
  | .seekPages request _ _ _ => some request.table
  | .update table _ _ => some table
  | .delete table _ => some table
  | .insert _ _ => none
  | .upsert _ _ => none

/-- Once a query is built, the modifiers are of no account. -/
theorem consume_plain (db : Database σ) (op : Operation) (q : SelectQuery) :
    op.consume db.plain q = op.consume db q := by
  have hoffset : ∀ reads, OffsetPages.readAll db.plain reads = OffsetPages.readAll db reads := by
    intro reads
    induction reads with
    | nil => rfl
    | cons request rest ih =>
      rw [OffsetPages.readAll, OffsetPages.readAll, ih]
      rfl
  have hseek : ∀ reads, SeekPages.readAll db.plain reads = SeekPages.readAll db reads := by
    intro reads
    induction reads with
    | nil => rfl
    | cons request rest ih =>
      rw [SeekPages.readAll, SeekPages.readAll, ih]
      rfl
  cases op with
  | offsetPages r pageSize idColumn reads =>
    rw [consume, consume, hoffset]
    rfl
  | seekPages r pageSize idColumn reads =>
    rw [consume, consume, hseek]
    rfl
  | _ => rfl

theorem run_endAlike (hdb : db.modifiers = ⟨[SoftDelete.modifier ⟨column⟩]⟩)
    (h : db.columns table s = (.ok known, s')) (hcontains : known.contains column = false)
    {op : Operation} (hop : op.table? = some table) :
    EndAlike (op.run db s) (op.run db.plain s') := by
  have hselects : ∀ request : SelectRequest, op.request? = some request → request.table = table →
      EndAlike (op.run db s) (op.run db.plain s') := by
    intro request hrequest htable
    subst htable
    rw [run_eq_build_consume db hrequest, run_eq_build_consume db.plain hrequest]
    exact (request.build_endAlike hdb h hcontains).bind fun q => (consume_plain db op q).symm
  cases op with
  | fetch request => exact hselects request rfl (Option.some.inj hop)
  | count request idColumn => exact hselects request rfl (Option.some.inj hop)
  | offsetPages request pageSize idColumn reads => exact hselects request rfl (Option.some.inj hop)
  | seekPages request pageSize idColumn reads => exact hselects request rfl (Option.some.inj hop)
  | update table values filter =>
    cases hop
    have hends := (Database.update_buildsAlike hdb h values filter).ends
    exact (hends.bind fun _ => rfl).bind fun _ => rfl
  | delete table filter =>
    cases hop
    have hends := (Database.delete_buildsAlike hdb h hcontains filter).ends
    exact (hends.bind fun _ => rfl).bind fun _ => rfl
  | insert table rows => cases hop
  | upsert table rows => cases hop

/-- The modifiers have no part in inserts. -/
theorem run_plain_of_insert (db : Database σ) {op : Operation} (hop : op.table? = none) :
    op.run db.plain = op.run db := by
  cases op with
  | insert table rows =>
    rw [run, run, Database.insertRows, Database.insertRows, Database.insertAll_plain]
  | upsert table rows =>
    rw [run, run, Database.upsertRows, Database.upsertRows, Database.insertAll_plain]
  | _ => cases hop

/-- A walk is untouched as well. -/
theorem walk_endAlike (hdb : db.modifiers = ⟨[SoftDelete.modifier ⟨column⟩]⟩)
    {request : SelectRequest} (h : db.columns request.table s = (.ok known, s'))
    (hcontains : known.contains column = false) (pageSize : Nat) (idColumn cursor : Option String)
    (steps : Nat) :
    EndAlike ((request.build db >>= SeekWalk.through db pageSize idColumn cursor steps) s)
      ((request.build db.plain >>= SeekWalk.through db.plain pageSize idColumn cursor steps)
        s') :=
  (request.build_endAlike hdb h hcontains).bind fun q =>
    (SeekWalk.through_plain db pageSize idColumn cursor steps q).symm

end Operation

/-! ## All that is sent -/

namespace Database

/-- Rows of the table are marked instead of deleted, and marked rows stay out of sight of all that
is built on a SELECT. -/
structure MarksRows (db : Database σ) (column table : String) (s s' : Session σ) : Prop where
  delete {filter : Filter} {q : Query} : (db.plain.delete table filter s).1 = .ok q →
    ∃ marking, Marks db.dialect table column (q.statement db.dialect) marking ∧
      Run.Executes marking (db.deleteRows table filter) s
  delete_error {filter : Filter} {e : Error} : (db.plain.delete table filter s).1 = .error e →
    Run.FailsFirst e (db.deleteRows table filter) s
  /-- The conditions of the filter and one group, or none if the filter tests the column. -/
  select (columns : Selection) (filter : Filter) (orderBy : OrderBy) :
    db.select table columns filter orderBy s =
      match db.compileFilter table filter .qualified s with
      | (.error e, s₁) => (.error e, s₁)
      | (.ok conditions, _) => (.ok { SelectQuery.ofTable table with
          columns, conditions, orderBy, extra := unmarked filter column }, s')
  /-- Rows, counts and pages. -/
  operation {op : Operation} {request : SelectRequest} : op.request? = some request →
    request.table = table → db.DrawsUnmarked column request (op.run db) s
  /-- Pages one after another. -/
  walk {request : SelectRequest} (pageSize : Nat) (idColumn cursor : Option String)
    (steps : Nat) : request.table = table → db.DrawsUnmarked column request
      (request.build db >>= SeekWalk.through db pageSize idColumn cursor steps) s

/-- The table is treated as without modifiers. The columns have been asked for in between, which
may be of account to the backend, so whole runs are compared from there. -/
structure LeavesRows (db : Database σ) (table : String) (s s' : Session σ) : Prop where
  select (columns : Selection) (filter : Filter) (orderBy : OrderBy) :
    (db.select table columns filter orderBy s).1 =
      (db.plain.select table columns filter orderBy s).1
  delete (filter : Filter) : (db.delete table filter s).1 = (db.plain.delete table filter s).1
  operation {op : Operation} : op.table? = some table →
    (op.run db s).1 = (op.run db.plain s').1 ∧
      (op.run db s).2.statements = (op.run db.plain s').2.statements
  walk {request : SelectRequest} (pageSize : Nat) (idColumn cursor : Option String)
    (steps : Nat) : request.table = table →
      ((request.build db >>= SeekWalk.through db pageSize idColumn cursor steps) s).2.statements =
        ((request.build db.plain >>=
          SeekWalk.through db.plain pageSize idColumn cursor steps) s').2.statements

/-- Updates of the table are the ones without modifiers; but they fail where the columns cannot be
had. -/
structure LeavesUpdates (db : Database σ) (table : String) (s : Session σ) : Prop where
  update {values : Fields} {filter : Filter} {q : UpdateQuery} {after : Session σ} :
    db.update table values filter s = (.ok q, after) →
      (db.plain.update table values filter s).1 = .ok q ∧
        Run.Executes (q.statement db.dialect) (db.updateRows table values filter) s
  update_error {values : Fields} {filter : Filter} {e : Error} {after : Session σ} :
    db.update table values filter s = (.error e, after) →
      Run.FailsFirst e (db.updateRows table values filter) s
  update_known {known : TableColumns} {s' : Session σ} : db.columns table s = (.ok known, s') →
    ∀ values filter, (db.update table values filter s).1 =
      (db.plain.update table values filter s).1

theorem marksRows_of_contains (hdb : db.modifiers = ⟨[SoftDelete.modifier ⟨column⟩]⟩)
    (hcolumn : '.' ∉ column.toList) (h : db.columns table s = (.ok known, s'))
    (hcontains : known.contains column = true) : db.MarksRows column table s s' where
  delete := deleteRows_softDelete hdb hcolumn h hcontains
  delete_error := deleteRows_failsFirst hdb h
  select := select_softDelete hdb hcolumn h hcontains
  operation {op request} hrequest htable := by
    subst htable
    rw [Operation.run_eq_build_consume db hrequest]
    exact build_drawsUnmarked hdb hcolumn h hcontains (Operation.consume_draws db op)
  walk pageSize idColumn cursor steps htable := by
    subst htable
    exact build_drawsUnmarked hdb hcolumn h hcontains
      (SeekWalk.through_draws db pageSize idColumn cursor steps)

theorem leavesRows_of_not_contains (hdb : db.modifiers = ⟨[SoftDelete.modifier ⟨column⟩]⟩)
    (h : db.columns table s = (.ok known, s')) (hcontains : known.contains column = false) :
    db.LeavesRows table s s' where
  select columns filter orderBy :=
    (select_buildsAlike hdb h hcontains columns filter orderBy).result
  delete filter := (delete_buildsAlike hdb h hcontains filter).result
  operation hop := (Operation.run_endAlike hdb h hcontains hop).result_eq
  walk pageSize idColumn cursor steps htable := by
    subst htable
    exact (Operation.walk_endAlike hdb h hcontains pageSize idColumn cursor steps).result_eq.2

theorem leavesUpdates (hdb : db.modifiers = ⟨[SoftDelete.modifier ⟨column⟩]⟩) (table : String)
    (s : Session σ) : db.LeavesUpdates table s where
  update hq := ⟨update_plain_of_ok hdb hq, executes_update (db.looksUp_update table _ _) hq rfl⟩
  update_error he := failsFirst_of_build (db.looksUp_update table _ _) he
  update_known h values filter := (update_buildsAlike hdb h values filter).result

/-- Where rows can be marked, they are, and stay out of sight; all else is as without the
modifier. -/
theorem sent_softDelete (hdb : db.modifiers = ⟨[SoftDelete.modifier ⟨column⟩]⟩)
    (hcolumn : '.' ∉ column.toList) :
    (∀ {table known s s'}, db.columns table s = (.ok known, s') →
      known.contains column = true → db.MarksRows column table s s') ∧
    (∀ {table known s s'}, db.columns table s = (.ok known, s') →
      known.contains column = false → db.LeavesRows table s s') ∧
    (∀ table s, db.LeavesUpdates table s) ∧
    ∀ op : Operation, op.table? = none → op.run db.plain = op.run db :=
  ⟨marksRows_of_contains hdb hcolumn, leavesRows_of_not_contains hdb, leavesUpdates hdb,
    fun _ => Operation.run_plain_of_insert db⟩

/-- Items with a deletion column, and labels without. -/
def itemsAndLabels : Database Unit where
  backend :=
    { dialect := .sqlite
      fetch _ := pure [[(countColumn, .ofNat 1), ("id", .ofNat 1)]]
      execute _ := pure ⟨1, none⟩
      describe table :=
        if table = "items" then pure [⟨"id", false⟩, ⟨"deleted_at", true⟩]
        else pure [⟨"id", false⟩, ⟨"name", false⟩] }
  settings := ⟨100, 100, "id"⟩
  modifiers := ⟨[SoftDelete.modifier ⟨"deleted_at"⟩]⟩

theorem sent_softDelete_itemsAndLabels :
    (itemsAndLabels.MarksRows "deleted_at" "items" (.start ())
      (itemsAndLabels.columns "items" (.start ())).2 ∧
      (itemsAndLabels.deleteRows "items" [("id", .ofNat 7)] (.start ())).2.calls =
        [.describe "items",
          .execute ⟨"UPDATE \"items\" SET \"deleted_at\" = ? WHERE \"id\" = ?", [.now, .int 7]⟩]) ∧
    itemsAndLabels.LeavesRows "labels" (.start ())
      (itemsAndLabels.columns "labels" (.start ())).2 := by
  obtain ⟨hmarks, hleaves, -⟩ := @sent_softDelete Unit itemsAndLabels "deleted_at" rfl (by decide)
  have hitems : itemsAndLabels.columns "items" (.start ()) =
      (.ok ⟨"items", [⟨"id", false⟩, ⟨"deleted_at", true⟩]⟩,
        (itemsAndLabels.columns "items" (.start ())).2) := rfl
  have hlabels : itemsAndLabels.columns "labels" (.start ()) =
      (.ok ⟨"labels", [⟨"id", false⟩, ⟨"name", false⟩]⟩,
        (itemsAndLabels.columns "labels" (.start ())).2) := rfl
  exact ⟨⟨hmarks hitems (by decide), by decide +kernel⟩, hleaves hlabels (by decide)⟩

end Database
end FilterSql

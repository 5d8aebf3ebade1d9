import FilterSql.Database.Basic
import FilterSql.Modifier.SoftDelete
import FilterSql.Proofs.Filter.Alike

/-!
# FilterSql.Proofs.Database.Alike

Pairs of runs on two databases that differ in their values only.

* `Run.Alike`: from sessions that agree, outcomes and sessions that agree.
* `Database.Twins`: two databases that cannot be told apart but by the rows they hold.
* `Database.BlindTwins`: two such databases whose modifiers do not look at values.
* `Modifier.IsBlind`: what a modifier makes of a query does not depend on the values.
* `Database.select_alike`, `update_alike`, `delete_alike`: queries from filters of the same shape.
-/

namespace FilterSql

/-! ## Pairs of runs -/

namespace Run

/-- Outcomes that agree, with states that do. A refusal on one side excuses from everything. -/
inductive Agree {s s' α β : Type} (S : s → s' → Prop) (R : α → β → Prop) :
    Except Error α × s → Except Error β × s' → Prop
  | ok {a : α} {b : β} {t : s} {t' : s'} (related : R a b) (states : S t t') :
    Agree S R (.ok a, t) (.ok b, t')
  | errors (e e' : Error) {t : s} {t' : s'} (states : S t t') :
    Agree S R (.error e, t) (.error e', t')
  | left {e : Error} (refused : e.isRefusal = true) (t : s) (x : Except Error β × s') :
    Agree S R (.error e, t) x
  | right {e : Error} (refused : e.isRefusal = true) (x : Except Error α × s) (t' : s') :
    Agree S R x (.error e, t')

def Alike {s s' α β : Type} (S : s → s' → Prop) (R : α → β → Prop) (run : Run s α)
    (run' : Run s' β) : Prop :=
  ∀ t t', S t t' → Agree S R (run t) (run' t')

section

variable {s s' α β γ δ : Type} {S : s → s' → Prop} {R : α → β → Prop} {T : γ → δ → Prop}

theorem Agree.bind {run : Run s α} {run' : Run s' β} {next : α → Run s γ} {next' : β → Run s' δ}
    {t : s} {t' : s'} (h : Agree S R (run t) (run' t'))
    (hnext : ∀ a b u u', run t = (.ok a, u) → run' t' = (.ok b, u') → R a b → S u u' →
      Agree S T (next a u) (next' b u')) :
    Agree S T ((run >>= next) t) ((run' >>= next') t') := by
  rcases hr : run t with ⟨r, u⟩
  rcases hr' : run' t' with ⟨r', u'⟩
  rw [hr, hr'] at h
  cases h with
  | ok hab hu =>
    rw [bind_of_ok hr, bind_of_ok hr']
    exact hnext _ _ _ _ hr hr' hab hu
  | errors e e' hu =>
    rw [bind_of_error hr, bind_of_error hr']
    exact .errors e e' hu
  | left he =>
    rw [bind_of_error hr]
    exact .left he u _
  | right he =>
    rw [bind_of_error hr']
    exact .right he _ u'

theorem Alike.bind {run : Run s α} {run' : Run s' β} {next : α → Run s γ} {next' : β → Run s' δ}
    (h : Alike S R run run') (hnext : ∀ a b, R a b → Alike S T (next a) (next' b)) :
    Alike S T (run >>= next) (run' >>= next') := by
  intro t t' ht
  exact (h t t' ht).bind fun a b u u' _ _ hab hu => hnext a b hab u u' hu

theorem Alike.pure {a : α} {b : β} (h : R a b) :
    Alike S R (Pure.pure a : Run s α) (Pure.pure b : Run s' β) :=
  fun _ _ ht => .ok h ht

theorem Alike.fail (e e' : Error) : Alike S R (Run.fail e) (Run.fail e') :=
  fun _ _ ht => .errors e e' ht

theorem Alike.reject_left (fault : Fault) (run' : Run s' β) :
    Alike S R (Run.reject fault) run' :=
  fun t _ _ => .left rfl t _

theorem Alike.reject_right (run : Run s α) (fault : Fault) :
    Alike S R run (Run.reject fault) :=
  fun _ t' _ => .right rfl _ t'

theorem Alike.ofExcept {x : Except Error α} {x' : Except Error β} (h : FilterSql.Alike R x x') :
    Alike S R (Run.ofExcept x) (Run.ofExcept x') := by
  intro t t' ht
  cases h with
  | ok hab => exact .ok hab ht
  | errors e e' => exact .errors e e' ht
  | left he x' => exact .left he t _
  | right he x => exact .right he _ t'

theorem Alike.mapError {f f' : Error → Error} {run : Run s α} {run' : Run s' β}
    (hf : ∀ e, e.isRefusal = true → (f e).isRefusal = true)
    (hf' : ∀ e, e.isRefusal = true → (f' e).isRefusal = true) (h : Alike S R run run') :
    Alike S R (run.mapError f) (run'.mapError f') := by
  intro t t' ht
  have hagree := h t t' ht
  rcases hr : run t with ⟨r, u⟩
  rcases hr' : run' t' with ⟨r', u'⟩
  rw [hr, hr'] at hagree
  cases hagree with
  | ok hab hu => simp only [Run.mapError, hr, hr']; exact .ok hab hu
  | errors e e' hu => simp only [Run.mapError, hr, hr']; exact .errors _ _ hu
  | left he => simp only [Run.mapError, hr]; exact .left (hf _ he) u _
  | right he => simp only [Run.mapError, hr']; exact .right (hf' _ he) _ u'

end

end Run

/-! ## Sessions -/

/-- A call with its values erased: its kind, its text and the number of its values are left. -/
def Call.erased : Call → Call
  | .fetch statement => .fetch statement.erased
  | .execute statement => .execute statement.erased
  | .describe table => .describe table

/-- The same columns are known, and the same calls were made up to values. -/
structure Session.Agree {σ σ' : Type} (s : Session σ) (s' : Session σ') : Prop where
  cache : s.cache = s'.cache
  calls : s.calls.map Call.erased = s'.calls.map Call.erased

section

variable {σ σ' α β : Type}

theorem Session.send_alike {R : α → β → Prop} {call call' : Call} {answer : Run σ α}
    {answer' : Run σ' β} (hcall : call.erased = call'.erased)
    (h : ∀ server server', Alike R (answer server).1 (answer' server').1) :
    Run.Alike Session.Agree R (Session.send call answer) (Session.send call' answer') := by
  intro s s' hs
  have hanswer := h s.server s'.server
  have hnext : ∀ (server : σ) (server' : σ'), Session.Agree
      { s with calls := s.calls ++ [call], server := server }
      { s' with calls := s'.calls ++ [call'], server := server' } := by
    intro server server'
    refine ⟨hs.cache, ?_⟩
    simp only [List.map_append, hs.calls, List.map_cons, hcall, List.map_nil]
  show Run.Agree _ R ((answer s.server).1, _) ((answer' s'.server).1, _)
  generalize (answer s.server).1 = r, (answer' s'.server).1 = r' at hanswer
  cases hanswer with
  | ok hab => exact .ok hab (hnext _ _)
  | errors e e' => exact .errors e e' (hnext _ _)
  | left he => exact .left he _ _
  | right he => exact .right he _ _

end

/-! ## Databases -/

/-- Every statement is answered; one that cannot be sent may still end the program. -/
structure Backend.Answers {σ : Type} (backend : Backend σ) : Prop where
  fetch (statement : Statement) (server : σ) {e : Error}
    (h : (backend.fetch statement server).1 = .error e) : e.isFatal = true
  execute (statement : Statement) (server : σ) {e : Error}
    (h : (backend.execute statement server).1 = .error e) : e.isFatal = true

theorem Backend.Answers.checked {σ : Type} {backend : Backend σ} (h : backend.Answers) :
    backend.checked.Answers := by
  have hchecked : ∀ {α : Type} {answer : Statement → Run σ α},
      (∀ statement server {e}, (answer statement server).1 = .error e → e.isFatal = true) →
        ∀ statement server {e},
          (checkedAnswer answer statement server).1 = .error e → e.isFatal = true := by
    intro α answer hanswer statement server e he
    unfold checkedAnswer at he
    by_cases hs : statement.isSendable = true
    · rw [if_pos hs] at he
      exact hanswer statement server he
    -- What cannot be sent ends the program, which is fatal.
    · rw [if_neg hs] at he
      cases he
      rfl
  exact ⟨hchecked h.fetch, hchecked h.execute⟩

/-- A modifier that makes the same of queries that are the same up to values. -/
def Modifier.IsBlind (m : Modifier) : Prop :=
  ∀ context q q', q.erased = q'.erased →
    Alike (fun r r' => r.erased = r'.erased) (m.modify context q) (m.modify context q')

namespace SoftDelete

theorem modify_erased_congr (s : SoftDelete) (context : ModifierContext) {q q' : Query}
    (h : q.erased = q'.erased) : (s.modify context q).erased = (s.modify context q').erased := by
  unfold modify
  by_cases ha : s.appliesTo context = true
  · simp only [ha, Bool.not_true, Bool.false_eq_true, if_false]
    obtain ⟨q, q', rfl, rfl, hq⟩ | ⟨q, q', rfl, rfl, -⟩ | ⟨q, q', rfl, rfl, hq⟩ :=
      Query.cases_of_erased_eq h
    -- Whether the filter asks about the column depends on the columns of the conditions only.
    · have href : CompiledCondition.references q.conditions s.column =
          CompiledCondition.references q'.conditions s.column := by
        rw [← CompiledCondition.references_erased q.conditions,
          ← CompiledCondition.references_erased q'.conditions]
        exact congrArg (fun q => CompiledCondition.references q.conditions s.column) hq
      simp only [href]
      split
      · exact h
      · simp only [Query.erased, SelectQuery.erased_andWhere, hq]
    · exact h
    · simp only [Query.erased, DeleteQuery.erased_toUpdate_set, hq]
  · simp only [ha, Bool.not_false, if_true, h]

theorem modifier_isBlind (s : SoftDelete) : s.modifier.IsBlind :=
  fun context _ _ h => .ok (s.modify_erased_congr context h)

end SoftDelete

/-- Two databases in one dialect with the same settings, modifiers and columns, both of which answer
every statement. -/
structure Database.Twins {σ σ' : Type} (db : Database σ) (db' : Database σ') : Prop where
  dialect : db.dialect = db'.dialect
  settings : db.settings = db'.settings
  modifiers : db.modifiers = db'.modifiers
  describe (table : String) (server : σ) (server' : σ') :
    (db.backend.describe table server).1 = (db'.backend.describe table server').1
  left : db.backend.Answers
  right : db'.backend.Answers

structure Database.BlindTwins {σ σ' : Type} (db : Database σ) (db' : Database σ') : Prop
    extends db.Twins db' where
  blind : ∀ m ∈ db.modifiers.modifiers, m.IsBlind

namespace Database

variable {σ σ' : Type} {db : Database σ} {db' : Database σ'}

abbrev SessionsAlike {α β : Type} (R : α → β → Prop) (run : Run (Session σ) α)
    (run' : Run (Session σ') β) : Prop :=
  Run.Alike Session.Agree R run run'

/-! ### Columns -/

theorem refreshColumns_alike (twins : db.BlindTwins db') (table : String) :
    SessionsAlike Eq (db.refreshColumns table) (db'.refreshColumns table) := by
  unfold refreshColumns
  refine Run.Alike.bind (R := Eq) ?_ ?_
  · refine Session.send_alike rfl fun server server' => ?_
    rw [twins.describe table server server']
    cases (db'.backend.describe table server').1 with
    | error e => exact .errors e e
    | ok columns => exact .ok rfl
  · rintro columns _ rfl
    cases columns with
    | nil => exact Run.Alike.fail _ _
    | cons c rest =>
      intro s s' hs
      exact .ok rfl ⟨congrArg (fun cache => SchemaCache.insert cache ⟨table, c :: rest⟩) hs.cache,
        hs.calls⟩

theorem columns_alike (twins : db.BlindTwins db') (table : String) :
    SessionsAlike Eq (db.columns table) (db'.columns table) := by
  unfold columns
  refine Run.Alike.bind (R := Eq) ?_ ?_
  · intro s s' hs
    exact .ok (by rw [hs.cache]) hs
  · rintro known _ rfl
    cases known with
    | none => exact refreshColumns_alike twins table
    | some columns => exact Run.Alike.pure rfl

/-! ### Queries -/

def QueriesAlike (q q' : Query) : Prop := q.erased = q'.erased

def SelectsAlike (q q' : SelectQuery) : Prop := q.erased = q'.erased

theorem applyAll_alike (context : ModifierContext) {modifiers : List Modifier}
    (hblind : ∀ m ∈ modifiers, m.IsBlind) {q q' : Query} (h : QueriesAlike q q') :
    Alike QueriesAlike (ModifierRegistry.applyAll context modifiers q)
      (ModifierRegistry.applyAll context modifiers q') := by
  have hcons : ∀ (m : Modifier) (rest : List Modifier) (q : Query),
      ModifierRegistry.applyAll context (m :: rest) q = (do
        let q ← m.modify context q
        ModifierRegistry.applyAll context rest q) := by
    intro m rest q
    rw [ModifierRegistry.applyAll]
    cases m.modify context q <;> rfl
  induction modifiers generalizing q q' with
  | nil => exact .ok h
  | cons m rest ih =>
    rw [hcons, hcons]
    refine Alike.bind (hblind m List.mem_cons_self context q q' h) fun r r' hr => ?_
    exact ih (fun m hm => hblind m (List.mem_cons_of_mem _ hm)) hr

theorem modify_alike (twins : db.BlindTwins db') {q q' : Query} (h : QueriesAlike q q') :
    SessionsAlike QueriesAlike (db.modify q) (db'.modify q') := by
  have htable : q.table = q'.table := by rw [← q.table_erased, h, q'.table_erased]
  unfold modify
  rw [← twins.modifiers, ← htable]
  split
  · exact Run.Alike.pure h
  · refine Run.Alike.bind (columns_alike twins q.table) ?_
    rintro columns _ rfl
    exact Run.Alike.ofExcept (applyAll_alike _ twins.blind h)

theorem any_needsNullability_eq {conditions conditions' : List Condition}
    (h : List.Forall₂ Condition.SameShape conditions conditions') :
    conditions.any Condition.needsNullability = conditions'.any Condition.needsNullability := by
  induction h with
  | nil => rfl
  | cons hc _ ih => rw [List.any_cons, List.any_cons, hc.needsNullability_eq, ih]

theorem compileFilter_alike (twins : db.BlindTwins db') (table : String) {filter filter' : Filter}
    (h : Fields.SameShape filter filter') (target : ColumnTarget) :
    SessionsAlike CompiledCondition.AlikeAll (db.compileFilter table filter target)
      (db'.compileFilter table filter' target) := by
  unfold compileFilter
  refine Run.Alike.bind (Run.Alike.ofExcept (Filter.conditions_alike h)) fun cs cs' hcs => ?_
  -- The columns are asked for on both sides or on neither.
  rw [any_needsNullability_eq hcs]
  split
  · refine Run.Alike.bind (columns_alike twins table) ?_
    rintro columns _ rfl
    exact Run.Alike.ofExcept (compile_alike _ target hcs)
  · exact Run.Alike.ofExcept (compile_alike _ target hcs)

theorem toSelect_alike {q q' : Query} (h : QueriesAlike q q') :
    Alike SelectsAlike q.toSelect q'.toSelect := by
  obtain ⟨q, q', rfl, rfl, hq⟩ | ⟨q, q', rfl, rfl, -⟩ | ⟨q, q', rfl, rfl, -⟩ :=
    Query.cases_of_erased_eq h
  · exact .ok hq
  · exact .errors _ _
  · exact .errors _ _

theorem toUpdate_alike {q q' : Query} (h : QueriesAlike q q') :
    Alike (fun q q' : UpdateQuery => q.erased = q'.erased) q.toUpdate q'.toUpdate := by
  obtain ⟨q, q', rfl, rfl, -⟩ | ⟨q, q', rfl, rfl, hq⟩ | ⟨q, q', rfl, rfl, -⟩ :=
    Query.cases_of_erased_eq h
  · exact .errors _ _
  · exact .ok hq
  · exact .errors _ _

theorem assignment_of_splitKey {key column : String} (v : Json)
    (h : Operator.splitKey key = (column, .eq)) (hc : column.isEmpty = false) :
    assignment key v = (do
      let b ← Bound.ofCell column v
      .ok ⟨column, b⟩) := by
  simp only [assignment, h, hc, Bool.false_eq_true, if_false]
  cases Bound.ofCell column v <;> rfl

theorem assignment_alike (key : String) {v v' : Json} (h : v.SameShape v') :
    Alike (fun a a' => a.erased = a'.erased) (assignment key v) (assignment key v') := by
  rcases hk : Operator.splitKey key with ⟨column, op⟩
  by_cases hop : op = .eq
  · subst hop
    by_cases hc : column.isEmpty = true
    · simp only [assignment, hk, hc, if_true]
      exact .left rfl _
    · rw [Bool.not_eq_true] at hc
      rw [assignment_of_splitKey v hk hc, assignment_of_splitKey v' hk hc]
      refine Alike.bind (Bound.ofCell_alike column h) fun b b' hb => .ok ?_
      simp only [Assignment.erased, hb]
  · simp only [assignment, hk]
    cases op with
    | eq => exact absurd rfl hop
    | _ => exact .left rfl _

theorem assignments_alike {values values' : Fields} (h : Fields.SameShape values values') :
    Alike (fun as as' => as.map Assignment.erased = as'.map Assignment.erased)
      (assignments values) (assignments values') := by
  have hcons : ∀ (field : String × Json) (rest : Fields),
      assignments (field :: rest) = (do
        let a ← assignment field.1 field.2
        let more ← assignments rest
        .ok (a :: more)) := by
    intro field rest
    rw [assignments]
    cases assignment field.1 field.2 with
    | error e => rfl
    | ok a => cases assignments rest <;> rfl
  induction h with
  | nil => exact .ok rfl
  | @cons field field' rest rest' hfield _ ih =>
    rw [hcons, hcons, ← hfield.1]
    refine Alike.bind (assignment_alike field.1 hfield.2) fun a a' ha => ?_
    refine Alike.bind ih fun as as' has => .ok ?_
    rw [List.map_cons, List.map_cons, ha, has]

theorem select_alike (twins : db.BlindTwins db') (table : String) (columns : Selection)
    {filter filter' : Filter} (h : Fields.SameShape filter filter') (orderBy : OrderBy) :
    SessionsAlike SelectsAlike (db.select table columns filter orderBy)
      (db'.select table columns filter' orderBy) := by
  unfold select
  refine Run.Alike.bind (compileFilter_alike twins table h .qualified) fun cs cs' hcs => ?_
  have hquery : QueriesAlike
      (.select { SelectQuery.ofTable table with columns, conditions := cs, orderBy })
      (.select { SelectQuery.ofTable table with columns, conditions := cs', orderBy }) := by
    simp only [QueriesAlike, Query.erased, SelectQuery.erased, hcs.eq]
  refine Run.Alike.bind (modify_alike twins hquery) fun q q' hq => ?_
  exact Run.Alike.ofExcept (toSelect_alike hq)

theorem update_alike (twins : db.BlindTwins db') (table : String) {values values' : Fields}
    (hv : Fields.SameShape values values') {filter filter' : Filter}
    (hf : Fields.SameShape filter filter') :
    SessionsAlike (fun q q' => q.erased = q'.erased) (db.update table values filter)
      (db'.update table values' filter') := by
  unfold update
  rw [hv.isEmpty_eq, hf.isEmpty_eq]
  split
  · exact Run.Alike.fail _ _
  · split
    · exact Run.Alike.fail _ _
    · refine Run.Alike.bind (compileFilter_alike twins table hf .unqualified) fun cs cs' hcs => ?_
      refine Run.Alike.bind (Run.Alike.ofExcept (assignments_alike hv)) fun as as' has => ?_
      have hquery : QueriesAlike
          (.update { UpdateQuery.ofTable table cs with assignments := as })
          (.update { UpdateQuery.ofTable table cs' with assignments := as' }) := by
        simp only [QueriesAlike, Query.erased, UpdateQuery.erased, UpdateQuery.ofTable, hcs.eq, has]
      refine Run.Alike.bind (modify_alike twins hquery) fun q q' hq => ?_
      exact Run.Alike.ofExcept (toUpdate_alike hq)

theorem delete_alike (twins : db.BlindTwins db') (table : String) {filter filter' : Filter}
    (h : Fields.SameShape filter filter') :
    SessionsAlike QueriesAlike (db.delete table filter) (db'.delete table filter') := by
  unfold delete
  rw [h.isEmpty_eq]
  split
  · exact Run.Alike.fail _ _
  · refine Run.Alike.bind (compileFilter_alike twins table h .unqualified) fun cs cs' hcs => ?_
    refine modify_alike twins ?_
    simp only [QueriesAlike, Query.erased, DeleteQuery.erased, DeleteQuery.ofTable, hcs.eq]

/-! ### Running queries -/

theorem sendFetch_alike (twins : db.BlindTwins db') {statement statement' : Statement}
    (h : statement.erased = statement'.erased) :
    SessionsAlike (fun _ _ => True) (db.sendFetch statement) (db'.sendFetch statement') := by
  refine Session.send_alike (congrArg Call.fetch h) fun server server' => ?_
  exact .of_refusals (fun e he => Error.isRefusal_of_isFatal (twins.left.fetch _ _ he))
    (fun e he => Error.isRefusal_of_isFatal (twins.right.fetch _ _ he)) fun _ _ _ _ => trivial

theorem sendExecute_alike (twins : db.BlindTwins db') {statement statement' : Statement}
    (h : statement.erased = statement'.erased) :
    SessionsAlike (fun _ _ => True) (db.sendExecute statement) (db'.sendExecute statement') := by
  refine Session.send_alike (congrArg Call.execute h) fun server server' => ?_
  exact .of_refusals (fun e he => Error.isRefusal_of_isFatal (twins.left.execute _ _ he))
    (fun e he => Error.isRefusal_of_isFatal (twins.right.execute _ _ he)) fun _ _ _ _ => trivial

theorem fetch_alike (twins : db.BlindTwins db') {q q' : SelectQuery} (h : q.erased = q'.erased) :
    SessionsAlike (fun _ _ => True) (db.fetch q) (db'.fetch q') := by
  unfold fetch
  rw [← show db.dialect = db'.dialect from twins.dialect]
  exact sendFetch_alike twins (SelectQuery.statement_erased_congr h _)

theorem execute_alike (twins : db.BlindTwins db') {q q' : Query} (h : QueriesAlike q q') :
    SessionsAlike (fun _ _ => True) (db.execute q) (db'.execute q') := by
  have hsend : SessionsAlike (fun _ _ => True)
      (do let result ← db.sendExecute (q.statement db.dialect); return result.rowsAffected)
      (do let result ← db'.sendExecute (q'.statement db'.dialect); return result.rowsAffected) := by
    rw [← show db.dialect = db'.dialect from twins.dialect]
    refine Run.Alike.bind (sendExecute_alike twins (Query.statement_erased_congr h _)) ?_
    intro _ _ _
    exact Run.Alike.pure trivial
  obtain ⟨q, q', rfl, rfl, -⟩ | ⟨q, q', rfl, rfl, -⟩ | ⟨q, q', rfl, rfl, -⟩ :=
    Query.cases_of_erased_eq h
  · exact Run.Alike.fail _ _
  · exact hsend
  · exact hsend

theorem countOfRows_error {rows : List Row} {e : Error} (h : countOfRows rows = .error e) :
    e.isInvalidArgument = true := by
  unfold countOfRows at h
  split at h
  · cases h; rfl
  · split at h
    · cases h
    · cases h; rfl
  · cases h; rfl

theorem countSelect_alike (twins : db.BlindTwins db') {q q' : SelectQuery}
    (h : q.erased = q'.erased) (idColumn : Option String) :
    SessionsAlike (fun _ _ => True) (db.countSelect q idColumn) (db'.countSelect q' idColumn) := by
  have hgrouped : q.isGrouped = q'.isGrouped := by
    show q.erased.isGrouped = q'.erased.isGrouped
    rw [h]
  unfold countSelect
  rw [← show db.dialect = db'.dialect from twins.dialect, ← twins.settings, hgrouped]
  split
  · exact Run.Alike.fail _ _
  · refine Run.Alike.bind
      (sendFetch_alike twins (SelectQuery.countStatement_erased_congr h _ _)) fun rows rows' _ => ?_
    have hcount : Alike (fun _ _ => True) (countOfRows rows) (countOfRows rows') :=
      .of_rejections countOfRows_error countOfRows_error fun _ _ _ _ => trivial
    exact Run.Alike.ofExcept hcount

end Database
end FilterSql

import FilterSql.Proofs.Operation

/-!
# FilterSql.Proofs.Paging.Drawn

Which rows the statements of an operation can draw from: whatever is counted or read in pages, the
conditions and the groups of the query stay.

* `Session.Sent`, `Run.Keeps`: what was sent between two sessions, and what a run over pages may
  send and change.
* `SelectQuery.Draws`: the calls for the rows of a query, a page of them, or their count.
* `OffsetPages.read_draws`, `SeekPages.read_draws`, `SeekWalk.next_draws`: one reading.
* `Operation.run_eq_build_consume`, `Operation.consume_draws`: an operation builds its query, and
  all that it sends then draws from the rows of the query.
-/

namespace FilterSql

variable {σ α β π : Type}

/-- Between the two sessions only calls of some kind were made. -/
def Session.Sent (P : Call → Prop) (before after : Session σ) : Prop :=
  ∃ sent, after.calls = before.calls ++ sent ∧ ∀ call ∈ sent, P call

namespace Session.Sent

variable {P : Call → Prop} {s s' s'' : Session σ}

theorem refl (P : Call → Prop) (s : Session σ) : s.Sent P s :=
  ⟨[], (List.append_nil _).symm, fun _ h => absurd h List.not_mem_nil⟩

theorem one {call : Call} (h : s'.calls = s.calls ++ [call]) (hcall : P call) : s.Sent P s' :=
  ⟨[call], h, fun _ hmem => by rwa [List.mem_singleton.1 hmem]⟩

theorem trans (h : s.Sent P s') (h' : s'.Sent P s'') : s.Sent P s'' := by
  obtain ⟨sent, hcalls, hsent⟩ := h
  obtain ⟨more, hcalls', hmore⟩ := h'
  refine ⟨sent ++ more, by rw [hcalls', hcalls, List.append_assoc], ?_⟩
  intro call hcall
  rcases List.mem_append.1 hcall with hcall | hcall
  · exact hsent call hcall
  · exact hmore call hcall

/-- The second run matters only where it comes to it. -/
theorem bind {run : Run (Session σ) α} {next : α → Run (Session σ) β} (h : s.Sent P (run s).2)
    (hnext : ∀ a after, run s = (.ok a, after) → after.Sent P (next a after).2) :
    s.Sent P ((run >>= next) s).2 := by
  rcases hrun : run s with ⟨e | a, after⟩
  · rw [hrun] at h
    rw [Run.bind_of_error hrun]
    exact h
  · rw [hrun] at h
    rw [Run.bind_of_ok hrun]
    exact h.trans (hnext a after hrun)

end Session.Sent

/-! ## Runs over pages -/

/-- A run over pages makes only calls of some kind, and keeps what is known of the pages. -/
def Run.Keeps (I : π → Prop) (P : Call → Prop) (run : Run (π × Session σ) α) : Prop :=
  ∀ p s, I p → I (run (p, s)).2.1 ∧ s.Sent P (run (p, s)).2.2

namespace Run.Keeps

variable {I : π → Prop} {P : Call → Prop} {run : Run (π × Session σ) α}
  {next : α → Run (π × Session σ) β}

theorem pure (a : α) : Keeps I P (Pure.pure a : Run (π × Session σ) α) :=
  fun _ s hp => ⟨hp, .refl P s⟩

theorem bind (h : Keeps I P run) (hnext : ∀ a, Keeps I P (next a)) : Keeps I P (run >>= next) := by
  intro p s hp
  obtain ⟨hp', hsent⟩ := h p s hp
  rcases hrun : run (p, s) with ⟨e | a, p', s'⟩
  · rw [hrun] at hp' hsent
    rw [Run.bind_of_error hrun]
    exact ⟨hp', hsent⟩
  · rw [hrun] at hp' hsent
    rw [Run.bind_of_ok hrun]
    obtain ⟨hp'', hmore⟩ := hnext a p' s' hp'
    exact ⟨hp'', hsent.trans hmore⟩

theorem withOwn (h : Keeps I P run) {p : π} (hp : I p) (s : Session σ) :
    s.Sent P (Run.withOwn p run s).2 := by
  have hsent := (h p s hp).2
  rw [Run.withOwn]
  rcases hrun : run (p, s) with ⟨e | a, p', s'⟩ <;> (rw [hrun] at hsent; exact hsent)

end Run.Keeps

/-! ## Rows of a query -/

/-- The calls for rows from a table under conditions and groups, or for their count. The rows behind
a cursor are under one more group. -/
inductive Draws (dialect : Dialect) (table : String) (conditions : List CompiledCondition)
    (groups : List Sql.Group) : Call → Prop where
  | rows (q : SelectQuery) : q.table = table → q.conditions = conditions → q.extra = groups →
      Draws dialect table conditions groups (.fetch (q.statement dialect))
  | behind (q : SelectQuery) (cursor : Sql.Group) : q.table = table → q.conditions = conditions →
      q.extra = groups →
      Draws dialect table conditions groups (.fetch ((q.andWhere cursor).statement dialect))
  | count (q : SelectQuery) (idColumn : String) : q.table = table → q.conditions = conditions →
      q.extra = groups →
      Draws dialect table conditions groups (.fetch (q.countStatement dialect idColumn))

/-- The queries that draw from the same rows; ordering, grouping and limits may differ. -/
structure SelectQuery.DrawsLike (q p : SelectQuery) : Prop where
  table : q.table = p.table
  conditions : q.conditions = p.conditions
  extra : q.extra = p.extra

namespace SelectQuery

/-- The calls that draw from the rows of a query. -/
def Draws (q : SelectQuery) (dialect : Dialect) : Call → Prop :=
  FilterSql.Draws dialect q.table q.conditions q.extra

variable {q p : SelectQuery} {dialect : Dialect}

theorem DrawsLike.refl (q : SelectQuery) : q.DrawsLike q := ⟨rfl, rfl, rfl⟩

theorem DrawsLike.rows (h : p.DrawsLike q) : q.Draws dialect (.fetch (p.statement dialect)) :=
  .rows p h.table h.conditions h.extra

theorem DrawsLike.behind (h : p.DrawsLike q) (cursor : Sql.Group) :
    q.Draws dialect (.fetch ((p.andWhere cursor).statement dialect)) :=
  .behind p cursor h.table h.conditions h.extra

theorem DrawsLike.count (h : p.DrawsLike q) (idColumn : String) :
    q.Draws dialect (.fetch (p.countStatement dialect idColumn)) :=
  .count p idColumn h.table h.conditions h.extra

end SelectQuery

namespace Database

variable (db : Database σ) {q p : SelectQuery}

theorem fetch_draws (h : p.DrawsLike q) (s : Session σ) :
    s.Sent (q.Draws db.dialect) (db.fetch p s).2 := .one rfl h.rows

theorem countSelect_draws (h : p.DrawsLike q) (idColumn : Option String) (s : Session σ) :
    s.Sent (q.Draws db.dialect) (db.countSelect p idColumn s).2 := by
  rw [countSelect]
  cases p.isGrouped with
  | true => exact .refl _ s
  | false =>
    have hsent : s.Sent (q.Draws db.dialect)
        (db.sendFetch (p.countStatement db.dialect (idColumn.getD db.settings.idColumn)) s).2 :=
      .one rfl (h.count _)
    refine hsent.bind fun rows after _ => ?_
    cases countOfRows rows <;> exact .refl _ after

end Database

/-! ## Readings -/

theorem PagedQuery.start_draws (db : Database σ) {q p : SelectQuery} (h : p.DrawsLike q)
    (pageSize : Nat) (idColumn : Option String) (s : Session σ) :
    s.Sent (q.Draws db.dialect) (PagedQuery.start db p pageSize idColumn s).2 := by
  rw [PagedQuery.start]
  split
  · exact (db.countSelect_draws h idColumn s).bind fun _ after _ => .refl _ after
  · exact .refl _ s

namespace OffsetPages

variable (db : Database σ) {q : SelectQuery}

theorem start_draws (q : SelectQuery) (pageSize : Nat) (idColumn : Option String)
    (s : Session σ) : s.Sent (q.Draws db.dialect) (start db q pageSize idColumn s).2 :=
  (PagedQuery.start_draws db (.refl q) pageSize idColumn s).bind fun _ after _ => .refl _ after

theorem query_of_start {db : Database σ} {pageSize : Nat} {idColumn : Option String}
    {s s' : Session σ} {p : OffsetPages} (h : start db q pageSize idColumn s = (.ok p, s')) :
    p.paged.query = q := by
  obtain ⟨_, hquery, -, rfl⟩ := of_start h
  exact hquery

theorem read_draws (page : Nat) (all : Bool) :
    Run.Keeps (fun p => p.paged.query.DrawsLike q) (q.Draws db.dialect) (read db page all) := by
  intro p s hp
  cases hin : (page < 1 || p.lastPage < page : Bool) with
  | true =>
    rw [read_outside db hin]
    exact ⟨hp, .refl _ s⟩
  | false =>
    rw [read_inside db hin]
    cases all with
    | true => exact ⟨hp, db.fetch_draws hp s⟩
    | false =>
      have hpage : (p.pageQuery page).DrawsLike q := ⟨hp.table, hp.conditions, hp.extra⟩
      have hsent := db.fetch_draws hpage s
      simp only [Bool.false_eq_true, if_false, Run.inner_bind]
      rcases hfetch : db.fetch (p.pageQuery page) s with ⟨e | rows, s'⟩ <;>
        (rw [hfetch] at hsent; exact ⟨hp, hsent⟩)

theorem readAll_draws (reads : List (Nat × Bool)) :
    Run.Keeps (fun p => p.paged.query.DrawsLike q) (q.Draws db.dialect) (readAll db reads) := by
  induction reads with
  | nil => exact Run.Keeps.pure ()
  | cons request rest ih => exact (read_draws db request.1 request.2).bind fun _ => ih

end OffsetPages

namespace SeekPages

variable (db : Database σ) {q : SelectQuery}

theorem start_draws (q : SelectQuery) (pageSize : Nat) (idColumn : Option String)
    (s : Session σ) : s.Sent (q.Draws db.dialect) (start db q pageSize idColumn s).2 := by
  rw [start]
  split
  · exact .refl _ s
  · exact (PagedQuery.start_draws db ⟨rfl, rfl, rfl⟩ pageSize _ s).bind fun _ after _ =>
      .refl _ after

theorem query_of_start {db : Database σ} {pageSize : Nat} {idColumn : Option String}
    {s s' : Session σ} {p : SeekPages} (h : start db q pageSize idColumn s = (.ok p, s')) :
    p.paged.query.DrawsLike q := by
  obtain ⟨_, _, -, hquery, -, rfl⟩ := of_start h
  simp only [hquery]
  exact ⟨rfl, rfl, rfl⟩

/-- What a key asks for draws from the same rows, or from those behind a cursor. -/
theorem request_draws {p : SeekPages} (hp : p.paged.query.DrawsLike q) {key : Option String}
    {page : SelectQuery} (h : p.request key = .ok page) (dialect : Dialect) :
    q.Draws dialect (.fetch (page.statement dialect)) := by
  have hpage : ({ p.paged.query with limit := some p.paged.pageSize, offset := none } :
      SelectQuery).DrawsLike q := ⟨hp.table, hp.conditions, hp.extra⟩
  cases key with
  | none =>
    cases h
    exact hpage.rows
  | some key =>
    obtain ⟨-, cursor, -, -, rfl⟩ := request_some_eq_ok_iff.1 h
    exact hpage.behind cursor

theorem read_sent {p : SeekPages} (hp : p.paged.query.DrawsLike q) (key : Option String)
    (all : Bool) (s : Session σ) :
    s.Sent (q.Draws db.dialect) (read db key all (p, s)).2.2 := by
  cases all with
  | true =>
    rw [read_all]
    exact db.fetch_draws hp s
  | false =>
    by_cases hc : p.paged.resultCount = 0
    · rw [read_of_empty db key hc]
      cases cursor? key <;> exact .refl _ s
    · cases hr : p.request key with
      | error e =>
        rw [read_of_request_error db hc hr]
        exact .refl _ s
      | ok page => exact .one (read_calls_of_request_ok db hc hr s) (request_draws hp hr db.dialect)

theorem read_draws (key : Option String) (all : Bool) :
    Run.Keeps (fun p => p.paged.query.DrawsLike q) (q.Draws db.dialect) (read db key all) := by
  intro p s hp
  refine ⟨?_, read_sent db hp key all s⟩
  rcases hread : read db key all (p, s) with ⟨r, p', s'⟩
  rcases read_pages hread with rfl | ⟨-, next, rfl⟩
  · exact hp
  · exact hp

theorem readAll_draws (reads : List (Option String × Bool)) :
    Run.Keeps (fun p => p.paged.query.DrawsLike q) (q.Draws db.dialect) (readAll db reads) := by
  induction reads with
  | nil => exact Run.Keeps.pure ()
  | cons request rest ih => exact (read_draws db request.1 request.2).bind fun _ => ih

end SeekPages

namespace SeekWalk

variable (db : Database σ) {q : SelectQuery}

theorem next_draws : Run.Keeps (fun walk => walk.pages.paged.query.DrawsLike q)
    (q.Draws db.dialect) (next db) := by
  intro walk s hwalk
  rcases hnext : next db (walk, s) with ⟨r, walk', s'⟩
  have hread := SeekPages.read_draws db walk.cursor false walk.pages s hwalk
  rcases next_cases hnext with ⟨-, -, rfl, rfl⟩ | ⟨-, e, -, rfl, hr⟩ | ⟨-, p, -, rfl, hr⟩ |
    ⟨-, p, rows, -, -, rfl, hr⟩
  · exact ⟨hwalk, .refl _ _⟩
  all_goals
    rw [hr] at hread
    exact hread

/-- So many steps one after another. -/
def nextAll {σ : Type} (db : Database σ) : Nat → Run (SeekWalk × Session σ) Unit
  | 0 => pure ()
  | n + 1 => do
    let _ ← next db
    nextAll db n

theorem nextAll_draws (n : Nat) : Run.Keeps (fun walk => walk.pages.paged.query.DrawsLike q)
    (q.Draws db.dialect) (nextAll db n) := by
  induction n with
  | zero => exact Run.Keeps.pure ()
  | succ n ih => exact (next_draws db).bind fun _ => ih

/-- A walk of so many steps over the pages of a query. -/
def through {σ : Type} (db : Database σ) (pageSize : Nat) (idColumn cursor : Option String)
    (steps : Nat) (q : SelectQuery) : Run (Session σ) Unit := do
  let pages ← SeekPages.start db q pageSize idColumn
  let _ ← Run.withOwn (start pages cursor) (nextAll db steps)
  return ()

theorem through_draws (pageSize : Nat) (idColumn cursor : Option String) (steps : Nat)
    (q : SelectQuery) (s : Session σ) :
    s.Sent (q.Draws db.dialect) (through db pageSize idColumn cursor steps q s).2 := by
  refine (SeekPages.start_draws db q pageSize idColumn s).bind fun pages after hstart => ?_
  have hsteps := (nextAll_draws db steps).withOwn (p := start pages cursor)
    (SeekPages.query_of_start hstart) after
  exact hsteps.bind fun _ last _ => .refl _ last

end SeekWalk

/-! ## Operations -/

namespace Operation

/-- The SELECT that an operation builds. -/
def request? : Operation → Option SelectRequest
  | .fetch request => some request
  | .count request _ => some request
  | .offsetPages request _ _ _ => some request
  | .seekPages request _ _ _ => some request
  | _ => none

/-- What an operation does with the query, once it is built. -/
def consume (db : Database σ) : Operation → SelectQuery → Run (Session σ) Unit
  | .fetch _, q => do
    let _ ← db.fetch q
    return ()
  | .count _ idColumn, q => do
    let _ ← db.countSelect q idColumn
    return ()
  | .offsetPages _ pageSize idColumn reads, q => do
    let pages ← OffsetPages.start db q pageSize idColumn
    let _ ← Run.withOwn pages (OffsetPages.readAll db reads)
    return ()
  | .seekPages _ pageSize idColumn reads, q => do
    let pages ← SeekPages.start db q pageSize idColumn
    let _ ← Run.withOwn pages (SeekPages.readAll db reads)
    return ()
  | _, _ => return ()

theorem run_eq_build_consume (db : Database σ) {op : Operation} {request : SelectRequest}
    (h : op.request? = some request) : op.run db = request.build db >>= op.consume db := by
  cases op with
  | fetch r => cases h; rfl
  | count r idColumn => cases h; rfl
  | offsetPages r pageSize idColumn reads =>
    cases h
    exact Run.bind_assoc _ _ _
  | seekPages r pageSize idColumn reads =>
    cases h
    exact Run.bind_assoc _ _ _
  | _ => cases h

/-- All that is sent once the query is built draws from its rows. -/
theorem consume_draws (db : Database σ) (op : Operation) (q : SelectQuery) (s : Session σ) :
    s.Sent (q.Draws db.dialect) (op.consume db q s).2 := by
  cases op with
  | fetch r => exact (db.fetch_draws (.refl q) s).bind fun _ after _ => .refl _ after
  | count r idColumn =>
    exact (db.countSelect_draws (.refl q) idColumn s).bind fun _ after _ => .refl _ after
  | offsetPages r pageSize idColumn reads =>
    refine (OffsetPages.start_draws db q pageSize idColumn s).bind fun pages after hstart => ?_
    have hpages : pages.paged.query.DrawsLike q := by
      rw [OffsetPages.query_of_start hstart]
      exact .refl q
    have hreads := (OffsetPages.readAll_draws db reads).withOwn hpages after
    exact hreads.bind fun _ last _ => .refl _ last
  | seekPages r pageSize idColumn reads =>
    refine (SeekPages.start_draws db q pageSize idColumn s).bind fun pages after hstart => ?_
    have hreads := (SeekPages.readAll_draws db reads).withOwn
      (SeekPages.query_of_start hstart) after
    exact hreads.bind fun _ last _ => .refl _ last
  | _ => exact .refl _ s

end Operation
end FilterSql

import FilterSql.Database.Scripted
import FilterSql.Paging.Offset
import FilterSql.Paging.Seek
import FilterSql.Proofs.Filter.Keys
import FilterSql.Proofs.Paging.Cursor

/-!
# FilterSql.Proofs.Paging.Reading

What one reading of a page does to the pages, to a walk and to the session.

* `Database.countSelect_of_counts`: the count that paging starts with.
* `OffsetPages.of_start`, `SeekPages.of_start`: the pages that paging starts with.
* `OffsetPages.read_outside`, `OffsetPages.read_inside`: a reading of a page by its number.
* `SeekPages.id_mem_names_resolve`: the ordering in which pages are read decides on the id.
* `SeekPages.request`: the query that a key asks for. All that a reading may refuse beforehand is in
  it: the text of the key, its columns and its values.
* `SeekPages.read_of_request_ok`, `SeekPages.read_of_request_error`: a reading in terms of it.
* `SeekWalk.next_cases`: a step of a walk in terms of the reading it makes.
-/

namespace FilterSql

/-! ## Counting -/

/-- The number of the rows of a query is in the first row of the answer. -/
def Database.Counts {σ : Type} (db : Database σ) (q : SelectQuery) (idColumn : String) (n : Nat) :
    Prop :=
  ∀ server, ∃ row more server',
    db.backend.fetch (q.countStatement db.dialect idColumn) server = (.ok (row :: more), server') ∧
      Fields.get? row countColumn = some (.ofNat n)

theorem Database.countSelect_of_counts {σ : Type} {db : Database σ} {q : SelectQuery}
    {idColumn : Option String} {n : Nat} (hq : q.isGrouped = false)
    (h : db.Counts q (idColumn.getD db.settings.idColumn) n) (s : Session σ) :
    ∃ s', db.countSelect q idColumn s = (.ok n, s') ∧ s'.calls = s.calls ++
      [.fetch (q.countStatement db.dialect (idColumn.getD db.settings.idColumn))] := by
  obtain ⟨row, more, server', hfetch, hcount⟩ := h s.server
  -- Only the first row of the answer is looked at.
  have hcountOf : countOfRows (row :: more) = .ok n := by
    simp [countOfRows, hcount, Json.ofNat, Number.natural?]
  generalize hstatement : q.countStatement db.dialect (idColumn.getD db.settings.idColumn) =
    statement at hfetch
  have hsend : db.sendFetch statement s = (.ok (row :: more), (db.sendFetch statement s).2) := by
    simp only [sendFetch, Session.send, hfetch]
  refine ⟨(db.sendFetch statement s).2, ?_, rfl⟩
  rw [countSelect, hq, if_neg Bool.false_ne_true, hstatement, Run.bind_of_ok hsend, hcountOf]
  rfl

theorem PagedQuery.of_start {σ : Type} {db : Database σ} {q : SelectQuery} {pageSize : Nat}
    {idColumn : Option String} {p : PagedQuery} {s s' : Session σ}
    (h : start db q pageSize idColumn s = (.ok p, s')) : p.query = q ∧ p.pageSize = pageSize := by
  unfold start at h
  split at h
  case isTrue =>
    obtain ⟨count, after, -, h⟩ := Run.bind_eq_ok h
    cases h
    exact ⟨rfl, rfl⟩
  case isFalse => cases h

/-! ## Pages by number -/

namespace OffsetPages

/-- Pages by number start in front of the first page. -/
theorem of_start {σ : Type} {db : Database σ} {q : SelectQuery} {pageSize : Nat}
    {idColumn : Option String} {p : OffsetPages} {s s' : Session σ}
    (h : start db q pageSize idColumn s = (.ok p, s')) :
    ∃ paged, paged.query = q ∧ paged.pageSize = pageSize ∧ p = ⟨paged, 0, 0, 0⟩ := by
  obtain ⟨paged, after, hpaged, h⟩ := Run.bind_eq_ok h
  obtain ⟨hquery, hsize⟩ := PagedQuery.of_start hpaged
  cases h
  exact ⟨paged, hquery, hsize, rfl⟩

theorem read_outside {σ : Type} (db : Database σ) {p : OffsetPages} {page : Nat}
    (h : (page < 1 || p.lastPage < page) = true) (all : Bool) (s : Session σ) :
    read db page all (p, s) = (.error (.invalidArgument (.pageOutside p.lastPage)), p, s) := by
  simp only [read, Run.own_bind, h, if_true]
  rfl

theorem read_inside {σ : Type} (db : Database σ) {p : OffsetPages} {page : Nat}
    (h : (page < 1 || p.lastPage < page) = false) (all : Bool) (s : Session σ) :
    read db page all (p, s) =
      (if all then Run.inner (db.fetch p.paged.query)
        else do
          let rows ← Run.inner (db.fetch (p.pageQuery page))
          Run.setOwn (p.moveTo page)
          return rows : Run (OffsetPages × Session σ) (List Row)) (p, s) := by
  simp only [read, Run.own_bind, h, Bool.false_eq_true, if_false]

end OffsetPages

/-! ## Orderings -/

theorem baseColumn_qualify (column : String) : baseColumn (qualify column) = baseColumn column := by
  by_cases h : '.' ∈ column.toList
  · simp [qualify, h]
  · rw [baseColumn_of_not_mem h]
    simp [qualify, h, baseColumn, mainAlias, Text.cutFirst?, String.toList_append]

namespace SeekPages

theorem resolve_ne_nil (orderBy : OrderBy) (idColumn : String) : resolve orderBy idColumn ≠ [] := by
  simp only [resolve]
  split
  case isTrue h =>
    rintro hnil
    rw [hnil] at h
    cases h
  case isFalse h => simp

theorem id_mem_names_resolve (orderBy : OrderBy) (idColumn : String) :
    baseColumn idColumn ∈ SeekCursor.names (resolve orderBy idColumn) := by
  simp only [resolve]
  split
  case isTrue h =>
    obtain ⟨entry, hentry, hbase⟩ := List.any_eq_true.1 h
    exact List.mem_map.2 ⟨entry, hentry, by simpa using hbase⟩
  case isFalse h => simp [SeekCursor.names, baseColumn_qualify]

/-! ## Pages -/

theorem of_start {σ : Type} {db : Database σ} {q : SelectQuery} {pageSize : Nat}
    {idColumn : Option String} {p : SeekPages} {s s' : Session σ}
    (h : start db q pageSize idColumn s = (.ok p, s')) :
    ∃ paged ordering, ordering = resolve q.orderBy (idColumn.getD db.settings.idColumn) ∧
      paged.query = { q with orderBy := ordering } ∧ paged.pageSize = pageSize ∧
        p = ⟨paged, ordering, none, none, paged.resultCount == 0⟩ := by
  unfold start at h
  split at h
  case isTrue => cases h
  case isFalse =>
    obtain ⟨paged, after, hpaged, h⟩ := Run.bind_eq_ok h
    obtain ⟨hquery, hsize⟩ := PagedQuery.of_start hpaged
    cases h
    exact ⟨paged, _, rfl, hquery, hsize, rfl⟩

/-- The query of the page after a key. -/
def request (p : SeekPages) (key : Option String) : Except Error SelectQuery :=
  match cursor? key with
  | .error e => .error e
  | .ok cursor => p.pageQuery cursor

theorem request_none (p : SeekPages) :
    p.request none = .ok { p.paged.query with limit := some p.paged.pageSize, offset := none } :=
  rfl

theorem request_some_of_parse_ok {p : SeekPages} {key : String} {c : SeekCursor}
    (h : SeekCursor.parse key = .ok c) : p.request (some key) = p.pageQuery (some c) := by
  simp [request, cursor?, h]

theorem request_some_eq_ok_iff {p : SeekPages} {key : String} {q : SelectQuery} :
    p.request (some key) = .ok q ↔
      ∃ c group, SeekCursor.parse key = .ok c ∧ c.after p.ordering = .ok group ∧
        q = { p.paged.query with limit := some p.paged.pageSize, offset := none }.andWhere
          group := by
  cases hp : SeekCursor.parse key with
  | error e => simp [request, cursor?, hp]
  | ok c =>
    rw [request_some_of_parse_ok hp, pageQuery]
    cases ha : c.after p.ordering with
    | error e => simp [ha]
    | ok group => simp [ha, eq_comm]

theorem request_error {p : SeekPages} {key : Option String} {e : Error}
    (h : p.request key = .error e) : e.isInvalidArgument = true := by
  cases key with
  | none => cases h
  | some text =>
    cases hp : SeekCursor.parse text with
    | error e' =>
      simp only [request, cursor?, hp, Except.error.injEq] at h
      exact h ▸ SeekCursor.parse_error hp
    | ok c =>
      rw [request_some_of_parse_ok hp, pageQuery] at h
      cases ha : c.after p.ordering with
      | error e' =>
        simp only [ha, Except.error.injEq] at h
        exact h ▸ SeekCursor.after_error ha
      | ok group => simp [ha] at h

theorem read_all {σ : Type} (db : Database σ) (key : Option String) (p : SeekPages)
    (s : Session σ) :
    read db key true (p, s) = ((db.fetch p.paged.query s).1, p, (db.fetch p.paged.query s).2) := rfl

theorem read_of_request_error {σ : Type} (db : Database σ) {key : Option String} {p : SeekPages}
    {e : Error} (hc : p.paged.resultCount ≠ 0) (h : p.request key = .error e) (s : Session σ) :
    read db key false (p, s) = (.error e, p, s) := by
  cases hk : cursor? key with
  | error e' =>
    simp only [request, hk] at h
    cases h
    simp [read, hk]
  | ok cursor =>
    simp only [request, hk] at h
    simp [read, hk, hc, h]

theorem read_of_request_ok {σ : Type} (db : Database σ) {key : Option String} {p : SeekPages}
    {q : SelectQuery} (hc : p.paged.resultCount ≠ 0) (h : p.request key = .ok q) (s : Session σ) :
    read db key false (p, s) =
      match db.fetch q s with
      | (.error e, s') => (.error e, p, s')
      | (.ok rows, s') =>
        match p.nextToken rows with
        | .error e => (.error e, p, s')
        | .ok next => (.ok rows, p.moveTo key next, s') := by
  cases hk : cursor? key with
  | error e' => simp [request, hk] at h
  | ok cursor =>
    simp only [request, hk] at h
    simp only [read, hk, h, Run.own_bind, Run.ofExcept_ok, Run.pure_bind, Run.inner_bind,
      beq_iff_eq, hc, if_false, Bool.false_eq_true]
    rcases hf : db.fetch q s with ⟨_ | rows, s'⟩
    · rfl
    · cases hn : p.nextToken rows <;> simp only [hn] <;> rfl

/-- An empty result is not asked for, but a key is read even so. -/
theorem read_of_empty {σ : Type} (db : Database σ) (key : Option String) {p : SeekPages}
    (hc : p.paged.resultCount = 0) (s : Session σ) :
    read db key false (p, s) =
      match cursor? key with
      | .error e => (.error e, p, s)
      | .ok _ => (.ok [], p.moveTo key none, s) := by
  cases hk : cursor? key with
  | error e => simp [read, hk]
  | ok cursor =>
    simp only [read, hk, Run.own_bind, Run.ofExcept_ok, Run.pure_bind, Bool.false_eq_true, if_false,
      hc, beq_self_eq_true, if_true, Run.setOwn_bind]
    rfl

theorem fetch_calls {σ : Type} (db : Database σ) (q : SelectQuery) (s : Session σ) :
    (db.fetch q s).2.calls = s.calls ++ [.fetch (q.statement db.dialect)] := rfl

theorem read_calls_of_request_ok {σ : Type} (db : Database σ) {key : Option String} {p : SeekPages}
    {q : SelectQuery} (hc : p.paged.resultCount ≠ 0) (h : p.request key = .ok q) (s : Session σ) :
    (read db key false (p, s)).2.2.calls = s.calls ++ [.fetch (q.statement db.dialect)] := by
  have hcalls := fetch_calls db q s
  rw [read_of_request_ok db hc h]
  rcases hf : db.fetch q s with ⟨_ | rows, s'⟩
  · rw [hf] at hcalls; exact hcalls
  · rw [hf] at hcalls
    cases hn : p.nextToken rows <;> simpa only [hn] using hcalls

/-! ## The token of the next page -/

theorem nextToken_of_short {p : SeekPages} {rows : List Row}
    (h : rows.length ≠ p.paged.pageSize) : p.nextToken rows = .ok none := by
  rw [nextToken]
  cases rows.getLast? with
  | none => rfl
  | some row => simp [h]

theorem nextToken_eq_ok_some_iff {p : SeekPages} {rows : List Row} {token : String} :
    p.nextToken rows = .ok (some token) ↔
      ∃ row c, rows.getLast? = some row ∧ rows.length = p.paged.pageSize ∧
        SeekCursor.ofRow row (SeekCursor.names p.ordering) = .ok c ∧ token = c.token := by
  rw [nextToken]
  cases hl : rows.getLast? with
  | none => simp
  | some row =>
    by_cases hn : rows.length = p.paged.pageSize
    · cases hc : SeekCursor.ofRow row (SeekCursor.names p.ordering) with
      | error e => simp [hn, hc]
      | ok c => simp [hn, hc, eq_comm]
    · simp [hn]

theorem nextToken_error {p : SeekPages} {rows : List Row} {e : Error}
    (h : p.nextToken rows = .error e) : e.isInvalidArgument = true := by
  unfold nextToken at h
  split at h
  · cases h
  · split at h
    · split at h
      case h_1 he => cases h; exact SeekCursor.ofRowFrom_error he
      case h_2 => cases h
    · cases h

/-! ## The pages after a reading -/

/-- A reading moves on, if it succeeds, and changes nothing else. -/
theorem read_pages {σ : Type} {db : Database σ} {key : Option String} {all : Bool}
    {p p' : SeekPages} {s s' : Session σ} {r : Except Error (List Row)}
    (h : read db key all (p, s) = (r, p', s')) :
    p' = p ∨ (∃ rows, r = .ok rows) ∧ ∃ next, p' = p.moveTo key next := by
  cases all with
  | true =>
    rw [read_all] at h
    cases h
    exact .inl rfl
  | false =>
    by_cases hc : p.paged.resultCount = 0
    · rw [read_of_empty db key hc] at h
      cases hk : cursor? key <;> rw [hk] at h <;> cases h
      · exact .inl rfl
      · exact .inr ⟨⟨_, rfl⟩, _, rfl⟩
    · cases hr : p.request key with
      | error e => rw [read_of_request_error db hc hr] at h; cases h; exact .inl rfl
      | ok q =>
        rw [read_of_request_ok db hc hr] at h
        rcases hf : db.fetch q s with ⟨_ | rows, s₁⟩
        · rw [hf] at h; cases h; exact .inl rfl
        · cases hn : p.nextToken rows <;> rw [hf] at h <;> simp only [hn] at h <;> cases h
          · exact .inl rfl
          · exact .inr ⟨⟨_, rfl⟩, _, rfl⟩

theorem read_error_pages {σ : Type} {db : Database σ} {key : Option String} {all : Bool}
    {p p' : SeekPages} {s s' : Session σ} {e : Error}
    (h : read db key all (p, s) = (.error e, p', s')) : p' = p := by
  rcases read_pages h with hp | ⟨⟨rows, hrows⟩, -⟩
  · exact hp
  · cases hrows

end SeekPages

/-! ## Walks -/

namespace SeekWalk

theorem next_of_exhausted {σ : Type} (db : Database σ) {walk : SeekWalk}
    (h : walk.exhausted = true) (s : Session σ) : next db (walk, s) = (.ok none, walk, s) := by
  simp [next, h, Run.pure_apply]

/-- The cursor is off the walk while the page is read, and a failure does not bring it back. -/
theorem next_of_read_error {σ : Type} {db : Database σ} {walk : SeekWalk} {p : SeekPages}
    {s s' : Session σ} {e : Error} (h : walk.exhausted = false)
    (hr : SeekPages.read db walk.cursor false (walk.pages, s) = (.error e, p, s')) :
    next db (walk, s) = (.error e, ⟨p, none, false⟩, s') := by
  have ht : readTaking db walk.cursor (walk, s) = (.error e, ⟨p, none, false⟩, s') := by
    simp [readTaking, hr, h]
  simp only [next, Run.own_bind, h, Bool.false_eq_true, if_false]
  rw [Run.bind_of_error ht]

theorem next_of_read_ok {σ : Type} {db : Database σ} {walk : SeekWalk} {p : SeekPages}
    {s s' : Session σ} {rows : List Row} (h : walk.exhausted = false)
    (hr : SeekPages.read db walk.cursor false (walk.pages, s) = (.ok rows, p, s')) :
    next db (walk, s) =
      if rows.isEmpty then (.ok none, ⟨p, none, true⟩, s')
      else (.ok (some ⟨walk.cursor, rows, p.lastResult⟩),
        ⟨p, p.lastResult, p.lastResult.isNone⟩, s') := by
  have ht : readTaking db walk.cursor (walk, s) = (.ok rows, ⟨p, none, false⟩, s') := by
    simp [readTaking, hr, h]
  simp only [next, Run.own_bind, h, Bool.false_eq_true, if_false]
  rw [Run.bind_of_ok ht]
  cases rows <;> rfl

theorem next_cases {σ : Type} {db : Database σ} {walk walk' : SeekWalk} {s s' : Session σ}
    {r : Except Error (Option SeekPage)} (h : next db (walk, s) = (r, walk', s')) :
    (walk.exhausted = true ∧ r = .ok none ∧ walk' = walk ∧ s' = s) ∨
      (walk.exhausted = false ∧ ∃ e, r = .error e ∧ walk' = ⟨walk.pages, none, false⟩ ∧
        SeekPages.read db walk.cursor false (walk.pages, s) = (.error e, walk.pages, s')) ∨
      (walk.exhausted = false ∧ ∃ p, r = .ok none ∧ walk' = ⟨p, none, true⟩ ∧
        SeekPages.read db walk.cursor false (walk.pages, s) = (.ok [], p, s')) ∨
      (walk.exhausted = false ∧ ∃ p rows, rows ≠ [] ∧
        r = .ok (some ⟨walk.cursor, rows, p.lastResult⟩) ∧
        walk' = ⟨p, p.lastResult, p.lastResult.isNone⟩ ∧
        SeekPages.read db walk.cursor false (walk.pages, s) = (.ok rows, p, s')) := by
  by_cases hx : walk.exhausted = true
  · rw [next_of_exhausted db hx] at h
    cases h
    exact .inl ⟨hx, rfl, rfl, rfl⟩
  · rw [Bool.not_eq_true] at hx
    rcases hr : SeekPages.read db walk.cursor false (walk.pages, s) with ⟨e | rows, p, s₁⟩
    · rw [next_of_read_error hx hr] at h
      cases h
      have hp := SeekPages.read_error_pages hr
      exact .inr (.inl ⟨hx, e, rfl, by rw [hp], by rw [hp]⟩)
    · rw [next_of_read_ok hx hr] at h
      cases rows with
      | nil => cases h; exact .inr (.inr (.inl ⟨hx, p, rfl, rfl, rfl⟩))
      | cons row rest => cases h; exact .inr (.inr (.inr ⟨hx, p, _, by simp, rfl, rfl, rfl⟩))

end SeekWalk

/-! ## Prepared pages -/

/-- A database that knows its answers beforehand. -/
def Script.database (dialect : Dialect) : Database Script :=
  ⟨Script.backend dialect, ⟨100, 100, "id"⟩, .empty⟩

theorem Script.fetch_database {d : Dialect} {s : Session Script} {answer : Answer}
    {rest : List Answer} (h : s.server.answers = answer :: rest) (q : SelectQuery) :
    ∃ s', s'.server.answers = rest ∧ (Script.database d).fetch q s =
      (match answer with
        | .rows rows => .ok rows
        | .done _ => .ok []
        | .fail e => .error e, s') := by
  refine ⟨((Script.database d).fetch q s).2, ?_, ?_⟩
  · cases answer <;> simp [Database.fetch, Database.sendFetch, Session.send, Script.database,
      Script.backend, Script.fetch, h]
  · cases answer <;> simp [Database.fetch, Database.sendFetch, Session.send, Script.database,
      Script.backend, Script.fetch, h]

def Session.ofThree (answers : List Answer) : Session Script :=
  .start ⟨.rows [[(countColumn, .ofNat 3)]] :: answers, none, []⟩

namespace SeekPages

/-- Three items by their ids, one on a page. -/
def ofItems : SeekPages :=
  ⟨⟨{ SelectQuery.ofTable "items" with orderBy := [("main.id", .asc)] }, 1, 3, Nat.zero_lt_one⟩,
    [("main.id", .asc)], none, none, false⟩

def firstItem : Row := [("id", .ofNat 1)]

def firstToken : String := SeekCursor.token ⟨firstItem⟩

theorem start_ofItems (answers : List Answer) :
    ∃ s, s.server.answers = answers ∧
      start (Script.database .sqlite) (.ofTable "items") 1 none (.ofThree answers) =
        (.ok ofItems, s) :=
  ⟨_, rfl, rfl⟩

theorem read_ofItems {s : Session Script} {answers : List Answer}
    (h : s.server.answers = .rows [firstItem] :: answers) :
    ∃ s', s'.server.answers = answers ∧ read (Script.database .sqlite) none false (ofItems, s) =
      (.ok [firstItem], ofItems.moveTo none (some firstToken), s') := by
  obtain ⟨s', hs', hfetch⟩ := Script.fetch_database h _
  refine ⟨s', hs', ?_⟩
  rw [read_of_request_ok _ (by decide) (request_none ofItems), hfetch]
  rfl

end SeekPages
end FilterSql

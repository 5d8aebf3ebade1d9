import FilterSql.Proofs.Database.Bulk
import FilterSql.Proofs.Paging.Alike

/-!
# FilterSql.Proofs.Operation

Values never get into the text of a statement, unless a modifier looks at them.

* `Operation`: what a caller can have done, from the building of the query to the last statement.
* `Operation.SameShape`: two operations that differ in their values only.
* `Operation.calls_erased_eq`: they make the same calls up to values, unless one of them is refused.
* `Operation.texts_differ`: neither a modifier that looks at values nor columns that are known from
  earlier can be left out of account.
-/

namespace FilterSql

/-! ## Operations -/

/-- A SELECT to build, and what is set on it afterwards. -/
structure SelectRequest where
  table : String
  columns : Selection
  filter : Filter
  orderBy : OrderBy
  groupBy : List String
  limit : Option Nat
  offset : Option Nat

namespace SelectRequest

def complete (r : SelectRequest) (q : SelectQuery) : SelectQuery :=
  { q with
    groupBy := q.groupBy ++ r.groupBy
    limit := r.limit.or q.limit
    offset := r.offset.or q.offset }

def build {σ : Type} (db : Database σ) (r : SelectRequest) : Run (Session σ) SelectQuery := do
  let q ← db.select r.table r.columns r.filter r.orderBy
  return r.complete q

structure SameShape (r r' : SelectRequest) : Prop where
  table : r.table = r'.table
  columns : r.columns = r'.columns
  filter : Fields.SameShape r.filter r'.filter
  orderBy : r.orderBy = r'.orderBy
  groupBy : r.groupBy = r'.groupBy
  limit : r.limit.isSome = r'.limit.isSome
  offset : r.offset.isSome = r'.offset.isSome

end SelectRequest

inductive Operation where
  | fetch (request : SelectRequest)
  | count (request : SelectRequest) (idColumn : Option String)
  | update (table : String) (values : Fields) (filter : Filter)
  | delete (table : String) (filter : Filter)
  | insert (table : String) (rows : List Row)
  | upsert (table : String) (rows : List Row)
  /-- Pages by number; the flag asks for all rows instead of the page. -/
  | offsetPages (request : SelectRequest) (pageSize : Nat) (idColumn : Option String)
    (reads : List (Nat × Bool))
  | seekPages (request : SelectRequest) (pageSize : Nat) (idColumn : Option String)
    (reads : List (Option String × Bool))

namespace OffsetPages

def readAll {σ : Type} (db : Database σ) :
    List (Nat × Bool) → Run (OffsetPages × Session σ) Unit
  | [] => pure ()
  | (page, all) :: rest => do
    let _ ← read db page all
    readAll db rest

def ofRequest {σ : Type} (db : Database σ) (request : SelectRequest) (pageSize : Nat)
    (idColumn : Option String) : Run (Session σ) OffsetPages := do
  let query ← request.build db
  start db query pageSize idColumn

end OffsetPages

namespace SeekPages

def readAll {σ : Type} (db : Database σ) :
    List (Option String × Bool) → Run (SeekPages × Session σ) Unit
  | [] => pure ()
  | (key, all) :: rest => do
    let _ ← read db key all
    readAll db rest

def ofRequest {σ : Type} (db : Database σ) (request : SelectRequest) (pageSize : Nat)
    (idColumn : Option String) : Run (Session σ) SeekPages := do
  let query ← request.build db
  start db query pageSize idColumn

end SeekPages

namespace Operation

/-- What is done; the rows and counts that come of it are dropped. -/
def run {σ : Type} (db : Database σ) : Operation → Run (Session σ) Unit
  | .fetch request => do
    let query ← request.build db
    let _ ← db.fetch query
    return ()
  | .count request idColumn => do
    let query ← request.build db
    let _ ← db.countSelect query idColumn
    return ()
  | .update table values filter => do
    let _ ← db.updateRows table values filter
    return ()
  | .delete table filter => do
    let _ ← db.deleteRows table filter
    return ()
  | .insert table rows => do
    let _ ← db.insertRows table rows
    return ()
  | .upsert table rows => do
    let _ ← db.upsertRows table rows
    return ()
  | .offsetPages request pageSize idColumn reads => do
    let pages ← OffsetPages.ofRequest db request pageSize idColumn
    let _ ← Run.withOwn pages (OffsetPages.readAll db reads)
    return ()
  | .seekPages request pageSize idColumn reads => do
    let pages ← SeekPages.ofRequest db request pageSize idColumn
    let _ ← Run.withOwn pages (SeekPages.readAll db reads)
    return ()

/-- Pages by cursor of no rows are not asked for, so a count of zero can be told from others. -/
def FindsRows {σ : Type} (db : Database σ) (s : Session σ) : Operation → Prop
  | .seekPages request pageSize idColumn _ =>
    ∀ pages s', SeekPages.ofRequest db request pageSize idColumn s = (.ok pages, s') →
      pages.paged.resultCount ≠ 0
  | _ => True

/-- The same operation with the same names and with values of the same shape. Page sizes, page
numbers and cursors are values. -/
inductive SameShape : Operation → Operation → Prop
  | fetch {r r' : SelectRequest} (hr : r.SameShape r') : SameShape (.fetch r) (.fetch r')
  | count {r r' : SelectRequest} (hr : r.SameShape r') (idColumn : Option String) :
    SameShape (.count r idColumn) (.count r' idColumn)
  | update (table : String) {values values' : Fields} {filter filter' : Filter}
    (hv : Fields.SameShape values values') (hf : Fields.SameShape filter filter') :
    SameShape (.update table values filter) (.update table values' filter')
  | delete (table : String) {filter filter' : Filter} (hf : Fields.SameShape filter filter') :
    SameShape (.delete table filter) (.delete table filter')
  | insert (table : String) {rows rows' : List Row} (hrows : RowsAlike rows rows') :
    SameShape (.insert table rows) (.insert table rows')
  | upsert (table : String) {rows rows' : List Row} (hrows : RowsAlike rows rows') :
    SameShape (.upsert table rows) (.upsert table rows')
  | offsetPages {r r' : SelectRequest} (hr : r.SameShape r') (pageSize pageSize' : Nat)
    (idColumn : Option String) {reads reads' : List (Nat × Bool)}
    (hreads : List.Forall₂ (fun x x' => x.2 = x'.2) reads reads') :
    SameShape (.offsetPages r pageSize idColumn reads)
      (.offsetPages r' pageSize' idColumn reads')
  | seekPages {r r' : SelectRequest} (hr : r.SameShape r') (pageSize pageSize' : Nat)
    (idColumn : Option String) {reads reads' : List (Option String × Bool)}
    (hreads : List.Forall₂ (fun x x' => x.1.isSome = x'.1.isSome ∧ x.2 = x'.2) reads reads') :
    SameShape (.seekPages r pageSize idColumn reads) (.seekPages r' pageSize' idColumn reads')

end Operation

/-! ## Two runs -/

variable {σ σ' : Type} {db : Database σ} {db' : Database σ'}

theorem SelectRequest.erased_complete {r r' : SelectRequest} (h : r.SameShape r')
    {q q' : SelectQuery} (hq : q.erased = q'.erased) :
    (r.complete q).erased = (r'.complete q').erased := by
  have hor : ∀ {a a' b b' : Option Nat}, a.isSome = a'.isSome →
      (b.map fun _ => 0) = (b'.map fun _ => 0) →
        ((a.or b).map fun _ => 0) = ((a'.or b').map fun _ => 0) := by
    intro a a' b b' ha hb
    cases a <;> cases a' <;> first | exact hb | rfl | cases ha
  have hlimit : (q.limit.map fun _ => 0) = (q'.limit.map fun _ => 0) :=
    congrArg SelectQuery.limit hq
  have hoffset : (q.offset.map fun _ => 0) = (q'.offset.map fun _ => 0) :=
    congrArg SelectQuery.offset hq
  have hgroup : q.groupBy = q'.groupBy := by
    show q.erased.groupBy = q'.erased.groupBy
    rw [hq]
  show { q.erased with
      groupBy := q.groupBy ++ r.groupBy
      limit := (r.limit.or q.limit).map fun _ => 0
      offset := (r.offset.or q.offset).map fun _ => 0 } = _
  rw [hq, hor h.limit hlimit, hor h.offset hoffset, hgroup, h.groupBy]
  rfl

theorem SelectRequest.build_alike (twins : db.BlindTwins db') {r r' : SelectRequest}
    (h : r.SameShape r') :
    Database.SessionsAlike Database.SelectsAlike (r.build db) (r'.build db') := by
  unfold build
  rw [h.table, h.columns, h.orderBy]
  refine Run.Alike.bind (Database.select_alike twins r'.table r'.columns h.filter r'.orderBy) ?_
  intro q q' hq
  exact Run.Alike.pure (erased_complete h hq)

namespace OffsetPages

theorem ofRequest_alike (twins : db.BlindTwins db') {r r' : SelectRequest} (h : r.SameShape r')
    (pageSize pageSize' : Nat) (idColumn : Option String) :
    Database.SessionsAlike PagesAlike (ofRequest db r pageSize idColumn)
      (ofRequest db' r' pageSize' idColumn) :=
  Run.Alike.bind (r.build_alike twins h) fun _ _ hq =>
    start_alike twins hq pageSize pageSize' idColumn

theorem readAll_alike (twins : db.BlindTwins db') {reads reads' : List (Nat × Bool)}
    (h : List.Forall₂ (fun x x' => x.2 = x'.2) reads reads') :
    Run.Alike (StatesAgree PagesAlike) (fun _ _ => True) (readAll db reads)
      (readAll db' reads') := by
  induction h with
  | nil => exact Run.Alike.pure trivial
  | @cons x x' rest rest' hx _ ih =>
    refine Run.Alike.bind (R := fun _ _ => True) ?_ fun _ _ _ => ih
    rw [hx]
    exact read_alike twins x.1 x'.1 x'.2

end OffsetPages

namespace SeekPages

theorem ofRequest_alike (twins : db.BlindTwins db') {r r' : SelectRequest} (h : r.SameShape r')
    (pageSize pageSize' : Nat) (idColumn : Option String) :
    Database.SessionsAlike StartsAlike (ofRequest db r pageSize idColumn)
      (ofRequest db' r' pageSize' idColumn) :=
  Run.Alike.bind (r.build_alike twins h) fun _ _ hq =>
    start_alike twins hq pageSize pageSize' idColumn

theorem readAll_alike (twins : db.BlindTwins db') {reads reads' : List (Option String × Bool)}
    (h : List.Forall₂ (fun x x' => x.1.isSome = x'.1.isSome ∧ x.2 = x'.2) reads reads') :
    Run.Alike (StatesAgree PagesAlike) (fun _ _ => True) (readAll db reads)
      (readAll db' reads') := by
  induction h with
  | nil => exact Run.Alike.pure trivial
  | @cons x x' rest rest' hx _ ih =>
    refine Run.Alike.bind (R := fun _ _ => True) ?_ fun _ _ _ => ih
    rw [hx.2]
    exact read_alike twins hx.1 x'.2

end SeekPages

theorem Run.Alike.drop {α β : Type} {R : α → β → Prop} {run : Run (Session σ) α}
    {run' : Run (Session σ') β} (h : Database.SessionsAlike R run run') :
    Database.SessionsAlike (fun _ _ => True) (do let _ ← run; return ())
      (do let _ ← run'; return ()) :=
  Run.Alike.bind h fun _ _ _ => Run.Alike.pure trivial

namespace Operation

theorem run_alike (twins : db.BlindTwins db') {op op' : Operation} (h : op.SameShape op')
    {s : Session σ} {s' : Session σ'} (hs : s.Agree s') (hfinds : op.FindsRows db s)
    (hfinds' : op'.FindsRows db' s') :
    Run.Agree Session.Agree (fun _ _ => True) (op.run db s) (op'.run db' s') := by
  cases h with
  | fetch hr =>
    refine Run.Alike.bind (SelectRequest.build_alike twins hr) (fun q q' hq => ?_) s s' hs
    exact (Database.fetch_alike twins hq).drop
  | count hr idColumn =>
    refine Run.Alike.bind (SelectRequest.build_alike twins hr) (fun q q' hq => ?_) s s' hs
    exact (Database.countSelect_alike twins hq idColumn).drop
  | update table hv hf => exact (Database.updateRows_alike twins table hv hf).drop s s' hs
  | delete table hf => exact (Database.deleteRows_alike twins table hf).drop s s' hs
  | insert table hr => exact (Database.insertRows_alike twins table hr).drop s s' hs
  | upsert table hr => exact (Database.insertAll_alike twins table hr true).drop s s' hs
  | offsetPages hr pageSize pageSize' idColumn hreads =>
    refine Run.Alike.bind (OffsetPages.ofRequest_alike twins hr pageSize pageSize' idColumn)
      (fun p p' hp => ?_) s s' hs
    exact (Run.Alike.withOwn hp (OffsetPages.readAll_alike twins hreads)).drop
  | seekPages hr pageSize pageSize' idColumn hreads =>
    -- The counts are in the pages that this very run starts, so the bind is taken apart here.
    refine (SeekPages.ofRequest_alike twins hr pageSize pageSize' idColumn s s' hs).bind
      fun p p' t t' hp hp' hstarts ht => ?_
    have hpages : SeekPages.PagesAlike p p' :=
      ⟨hstarts.1, hstarts.2, hfinds p t hp, hfinds' p' t' hp'⟩
    exact (Run.Alike.withOwn hpages (SeekPages.readAll_alike twins hreads)).drop t t' ht

theorem findsRows_of_count {request : SelectRequest} {pageSize : Nat} {idColumn : Option String}
    {reads : List (Option String × Bool)} {s : Session σ} {n : Nat}
    (h : (SeekPages.ofRequest db request pageSize idColumn s).1.map
      (fun p => p.paged.resultCount) = .ok (n + 1)) :
    (Operation.seekPages request pageSize idColumn reads).FindsRows db s := by
  intro pages s' hp hzero
  rw [hp] at h
  have hcount : pages.paged.resultCount = n + 1 := Except.ok.inj h
  rw [hzero] at hcount
  cases hcount

theorem accepted_of_isOk {op : Operation} {s : Session σ} (h : (op.run db s).1.isOk = true) :
    ∀ e, (op.run db s).1 = .error e → e.isRefusal = false := by
  intro e he
  rw [he] at h
  cases h

/-- Values never get into the text: where no modifier looks at them, two operations that differ in
values of the same shape make the same calls, with as many values, unless one of them is refused. -/
theorem calls_erased_eq (twins : db.Twins db')
    (hblind : ∀ m ∈ db.modifiers.modifiers, m.IsBlind) {op op' : Operation} (h : op.SameShape op')
    {s : Session σ} {s' : Session σ'} (hs : s.Agree s') (hfinds : op.FindsRows db s)
    (hfinds' : op'.FindsRows db' s')
    (haccepted : ∀ e, (op.run db s).1 = .error e → e.isRefusal = false)
    (haccepted' : ∀ e, (op'.run db' s').1 = .error e → e.isRefusal = false) :
    (op.run db s).2.calls.map Call.erased = (op'.run db' s').2.calls.map Call.erased := by
  have hagree := run_alike ⟨twins, hblind⟩ h hs hfinds hfinds'
  -- The runs agree, or one of them was refused, which the hypotheses rule out.
  generalize op.run db s = x, op'.run db' s' = x' at hagree haccepted haccepted' ⊢
  cases hagree with
  | ok _ hu => exact hu.calls
  | errors e e' hu => exact hu.calls
  | left he => rw [haccepted _ rfl] at he; cases he
  | right he => rw [haccepted' _ rfl] at he; cases he

end Operation

/-! ## Two searches -/

/-- Items that are marked when they are deleted; every statement is answered by the same rows. -/
def softItems (rows : List Row) : Database Unit where
  backend := Backend.checked
    { dialect := .sqlite
      fetch _ := pure rows
      execute _ := pure ⟨rows.length, none⟩
      describe _ := pure [⟨"id", false⟩, ⟨"name", false⟩, ⟨"deleted_at", true⟩] }
  settings := ⟨100, 100, "id"⟩
  modifiers := ⟨[SoftDelete.modifier ⟨"deleted_at"⟩]⟩

theorem softItems_twins (rows rows' : List Row) : (softItems rows).Twins (softItems rows') where
  dialect := rfl
  settings := rfl
  modifiers := rfl
  describe _ _ _ := rfl
  left := Backend.Answers.checked ⟨fun _ _ _ h => (by cases h), fun _ _ _ h => (by cases h)⟩
  right := Backend.Answers.checked ⟨fun _ _ _ h => (by cases h), fun _ _ _ h => (by cases h)⟩

theorem softItems_blind (rows : List Row) :
    ∀ m ∈ (softItems rows).modifiers.modifiers, m.IsBlind :=
  List.forall_mem_singleton.2 (SoftDelete.modifier_isBlind _)

def itemsNamed (name : String) : SelectRequest :=
  ⟨"items", .all, [("name", .str name)], [], [], none, none⟩

theorem itemsNamed_sameShape (name name' : String) :
    (itemsNamed name).SameShape (itemsNamed name') :=
  ⟨rfl, rfl, .cons ⟨rfl, .scalar rfl rfl⟩ .nil, rfl, rfl, rfl, rfl⟩

def pageNamed (name : String) (pageSize : Nat) (key : String) : Operation :=
  .seekPages (itemsNamed name) pageSize none [(some key, false)]

theorem pageNamed_sameShape (name name' : String) (pageSize pageSize' : Nat)
    (key key' : String) :
    (pageNamed name pageSize key).SameShape (pageNamed name' pageSize' key') := by
  unfold pageNamed
  exact .seekPages (itemsNamed_sameShape name name') pageSize pageSize' none
    (.cons ⟨rfl, rfl⟩ .nil)

namespace Operation

theorem calls_erased_eq_pageNamed :
    ((pageNamed "pen" 2 "\x7b\"id\":1\x7d").run
        (softItems [[(countColumn, .ofNat 3), ("id", .ofNat 1)]]) (.start ())).2.calls.length = 3 ∧
      ((pageNamed "pen" 2 "\x7b\"id\":1\x7d").run
        (softItems [[(countColumn, .ofNat 3), ("id", .ofNat 1)]]) (.start ())).2.calls.map
          Call.erased =
      ((pageNamed "' OR 1=1 --" 5 "\x7b\"id\":\"; --\"\x7d").run
        (softItems [[(countColumn, .ofNat 9), ("id", .ofNat 4)]]) (.start ())).2.calls.map
          Call.erased := by
  refine ⟨by decide +kernel, ?_⟩
  refine calls_erased_eq (softItems_twins _ _) (softItems_blind _)
    (pageNamed_sameShape _ _ _ _ _ _) ⟨rfl, rfl⟩ ?_ ?_ ?_ ?_
  · exact findsRows_of_count (n := 2) (by decide +kernel)
  · exact findsRows_of_count (n := 8) (by decide +kernel)
  · exact accepted_of_isOk (by decide +kernel)
  · exact accepted_of_isOk (by decide +kernel)

end Operation

/-! ## Searches that are told apart -/

def Call.text? : Call → Option String
  | .fetch statement => some statement.sql
  | .execute statement => some statement.sql
  | .describe _ => none

/-- The texts that were sent, the oldest first. -/
def Session.texts {σ : Type} (s : Session σ) : List String := s.calls.filterMap Call.text?

/-- A modifier that looks at values: a search with the given one is cut down to a single row. -/
def Modifier.firstFor (value : Bound) : Modifier where
  id := "first_for"
  modify _ q :=
    match q with
    | .select q =>
      if q.conditions.any fun c => c.atom.test.values.contains value then
        .ok (.select { q with limit := some 1 })
      else .ok (.select q)
    | q => .ok q

def firstPen : Database Unit := { softItems [] with modifiers := ⟨[.firstFor (.text "pen")]⟩ }

theorem firstPen_twins : firstPen.Twins firstPen where
  dialect := rfl
  settings := rfl
  modifiers := rfl
  describe _ _ _ := rfl
  left := (softItems_twins [] []).left
  right := (softItems_twins [] []).right

def searchText : String := "SELECT \"main\".* FROM \"items\" AS \"main\" WHERE \"name\" = ?"

/-- A session that knows the items as they were before they could be marked. -/
def knowsItems : Session Unit :=
  ⟨SchemaCache.empty.insert ⟨"items", [⟨"id", false⟩, ⟨"name", false⟩]⟩, [], ()⟩

namespace Operation

/-- Two searches for names make calls with different texts if a modifier looks at the name, and if
the sessions in which they are made know different columns. -/
theorem texts_differ :
    (Operation.fetch (itemsNamed "pen")).SameShape (.fetch (itemsNamed "ink")) ∧
    (firstPen.Twins firstPen ∧
      ((Operation.fetch (itemsNamed "pen")).run firstPen (.start ())).1.isOk = true ∧
      ((Operation.fetch (itemsNamed "ink")).run firstPen (.start ())).1.isOk = true ∧
      ((Operation.fetch (itemsNamed "pen")).run firstPen (.start ())).2.texts =
        [searchText ++ " LIMIT ?"] ∧
      ((Operation.fetch (itemsNamed "ink")).run firstPen (.start ())).2.texts =
        [searchText]) ∧
    ((softItems []).Twins (softItems []) ∧
      (∀ m ∈ (softItems []).modifiers.modifiers, m.IsBlind) ∧
      ((Operation.fetch (itemsNamed "pen")).run (softItems []) knowsItems).1.isOk = true ∧
      ((Operation.fetch (itemsNamed "ink")).run (softItems []) (.start ())).1.isOk = true ∧
      ((Operation.fetch (itemsNamed "pen")).run (softItems []) knowsItems).2.texts =
        [searchText] ∧
      ((Operation.fetch (itemsNamed "ink")).run (softItems []) (.start ())).2.texts =
        [searchText ++ " AND \"main\".\"deleted_at\" IS NULL"]) := by
  refine ⟨.fetch (itemsNamed_sameShape "pen" "ink"), ⟨firstPen_twins, ?_⟩,
    softItems_twins [] [], softItems_blind [], ?_⟩
  · exact ⟨by decide +kernel, by decide +kernel, by decide +kernel, by decide +kernel⟩
  · exact ⟨by decide +kernel, by decide +kernel, by decide +kernel, by decide +kernel⟩

end Operation
end FilterSql

import FilterSql.Proofs.Database.Lookups

/-!
# FilterSql.Proofs.Database.Client

Whatever is done with a database, the cache holds what was told last of each table.

* `Request`, `Request.learns_run`: what a database can be asked for, and that the cache holds what
  is told then.
* `Request.Builds.looksUpOnce`, `Request.Builds.stays`: the look-ups of building a query.
* `Action`, `Client.history`: requests, changes of the modifiers and of the cache, and what they tell
  and forget.
* `Client.coherent_after`: what holds after any actions.
-/

namespace FilterSql

variable {σ : Type}

/-! ## Requests -/

/-- What a database can be asked for. -/
inductive Request where
  | columns (table : String)
  | refreshColumns (table : String)
  | compileFilter (table : String) (filter : Filter) (target : ColumnTarget)
  | modify (q : Query)
  | select (table : String) (selection : Selection) (filter : Filter) (orderBy : OrderBy)
  | update (table : String) (values : Fields) (filter : Filter)
  | delete (table : String) (filter : Filter)
  | fetch (q : SelectQuery)
  | execute (q : Query)
  | count (q : Query) (idColumn : Option String)
  | insertRows (table : String) (rows : List Row)
  | upsertRows (table : String) (rows : List Row)
  | updateRows (table : String) (values : Fields) (filter : Filter)
  | deleteRows (table : String) (filter : Filter)

namespace Request

/-- What is done; the results are dropped, the errors are not. -/
def run (db : Database σ) : Request → Run (Session σ) Unit
  | .columns table => (db.columns table).ignore
  | .refreshColumns table => (db.refreshColumns table).ignore
  | .compileFilter table filter target => (db.compileFilter table filter target).ignore
  | .modify q => (db.modify q).ignore
  | .select table selection filter orderBy => (db.select table selection filter orderBy).ignore
  | .update table values filter => (db.update table values filter).ignore
  | .delete table filter => (db.delete table filter).ignore
  | .fetch q => (db.fetch q).ignore
  | .execute q => (db.execute q).ignore
  | .count q idColumn => (db.count q idColumn).ignore
  | .insertRows table rows => (db.insertRows table rows).ignore
  | .upsertRows table rows => (db.upsertRows table rows).ignore
  | .updateRows table values filter => (db.updateRows table values filter).ignore
  | .deleteRows table filter => (db.deleteRows table filter).ignore

/-- The requests for a query on a table with a filter. -/
inductive Builds (table : String) (filter : Filter) : Request → Prop
  | select (selection : Selection) (orderBy : OrderBy) :
    Builds table filter (.select table selection filter orderBy)
  | update (values : Fields) : Builds table filter (.update table values filter)
  | delete : Builds table filter (.delete table filter)

variable (db : Database σ)

theorem learns_run (r : Request) : Run.Learns db.backend (r.run db) := by
  have hP := Run.closed_learns db.backend
  have ignored {α : Type} {run : Run (Session σ) α} (h : Run.Learns db.backend run) :
      Run.Learns db.backend run.ignore := hP.bind h fun _ => hP.pure ()
  have hfilter (table : String) (filter : Filter) (target : ColumnTarget) :=
    Database.compileFilter_closed hP (db.learns_columns table) filter target
  have hmodify (q : Query) := Database.modify_closed hP q (db.learns_columns q.table)
  have hupdate (table : String) (values : Fields) (filter : Filter) :=
    Database.update_closed hP (hfilter table filter) (fun q _ => hmodify q) values
  have hdelete (table : String) (filter : Filter) :=
    Database.delete_closed hP (hfilter table filter) fun q _ => hmodify q
  cases r with
  | columns table => exact ignored (db.learns_columns table)
  | refreshColumns table => exact ignored (db.learns_refreshColumns table)
  | compileFilter table filter target => exact ignored (hfilter table filter target)
  | modify q => exact ignored (hmodify q)
  | select table selection filter orderBy =>
    exact ignored (Database.select_closed hP (hfilter table filter) (fun q _ => hmodify q) _ _)
  | update table values filter => exact ignored (hupdate table values filter)
  | delete table filter => exact ignored (hdelete table filter)
  | fetch q => exact ignored (db.learns_sendFetch _)
  | execute q => exact ignored (db.learns_execute q)
  | count q idColumn => exact ignored (db.learns_count q idColumn)
  | insertRows table rows =>
    exact ignored (hP.bind (db.learns_insertAll table rows false) fun _ => hP.pure _)
  | upsertRows table rows => exact ignored (db.learns_insertAll table rows true)
  | updateRows table values filter =>
    exact ignored (hP.bind (hupdate table values filter) fun q => db.learns_execute (.update q))
  | deleteRows table filter =>
    exact ignored (hP.bind (hdelete table filter) fun q => db.learns_execute q)

variable {db} {table : String} {filter : Filter} {r : Request}

theorem Builds.closed {P : ∀ {α : Type}, Run (Session σ) α → Prop} (h : Builds table filter r)
    (hP : Run.Closed P) (hfilter : ∀ target, P (db.compileFilter table filter target))
    (hmodify : ∀ q : Query, q.table = table → P (db.modify q)) : P (r.run db) := by
  cases h with
  | select selection orderBy =>
    exact hP.bind (Database.select_closed hP hfilter hmodify selection orderBy) fun _ => hP.pure ()
  | update values =>
    exact hP.bind (Database.update_closed hP hfilter hmodify values) fun _ => hP.pure ()
  | delete => exact hP.bind (Database.delete_closed hP hfilter hmodify) fun _ => hP.pure ()

theorem Builds.looksUpOnce (h : Builds table filter r) : Run.LooksUpOnce table (r.run db) := by
  have hP := Run.closed_looksUpOnce (σ := σ) table
  have hcolumns := db.looksUpOnce_columns table
  refine h.closed hP (Database.compileFilter_closed hP hcolumns filter) ?_
  rintro q rfl
  exact Database.modify_closed hP q hcolumns

theorem Builds.stays (h : Builds table filter r) (hempty : db.modifiers.isEmpty = true)
    (hnull : ∀ key value, (key, value) ∈ filter → value ≠ .null) : Run.Stays (r.run db) := by
  have hP := Run.closed_stays (σ := σ)
  refine h.closed hP (fun target => db.stays_compileFilter target hnull) fun q _ => ?_
  rw [Database.modify_of_isEmpty hempty]
  exact hP.pure q

end Request

/-! ## Clients -/

/-- A database, whose modifiers may change, and a session with it. -/
structure Client (σ : Type) where
  db : Database σ
  session : Session σ

/-- What a client can do. -/
inductive Action where
  | request (r : Request)
  | addModifier (m : Modifier)
  | removeModifier (id : String)
  | invalidate (table : String)
  | clear

namespace Client

def act (c : Client σ) : Action → Client σ
  | .request r => { c with session := (r.run c.db c.session).2 }
  | .addModifier m => { c with db := { c.db with modifiers := (c.db.modifiers.add m).2 } }
  | .removeModifier id => { c with db := { c.db with modifiers := (c.db.modifiers.remove id).2 } }
  | .invalidate table =>
    { c with session := { c.session with cache := (c.session.cache.invalidate table).2 } }
  | .clear => { c with session := { c.session with cache := .empty } }

/-- What an action tells of the tables and forgets. -/
def events (c : Client σ) : Action → List SchemaEvent
  | .request r => c.session.heard c.db.backend (r.run c.db c.session).2
  | .addModifier _ | .removeModifier _ => []
  | .invalidate table => [.invalidated table]
  | .clear => [.cleared]

/-- Failures do not stop a client. -/
def after (c : Client σ) (actions : List Action) : Client σ := actions.foldl act c

def history (c : Client σ) : List Action → List SchemaEvent
  | [] => []
  | a :: rest => c.events a ++ (c.act a).history rest

theorem cache_act (c : Client σ) (a : Action) :
    (c.act a).session.cache = c.session.cache.learn (c.events a) := by
  cases a with
  | request r => exact (r.learns_run c.db c.session).cache_eq
  | addModifier m => rfl
  | removeModifier id => rfl
  | invalidate table => rfl
  | clear => rfl

theorem cache_after (c : Client σ) (actions : List Action) :
    (c.after actions).session.cache = c.session.cache.learn (c.history actions) := by
  induction actions generalizing c with
  | nil => rfl
  | cons a rest ih =>
    rw [history, SchemaCache.learn_append, ← c.cache_act]
    exact ih (c.act a)

/-- What holds of a client with a history. -/
structure Coherent (c : Client σ) (history : List SchemaEvent) : Prop where
  entry : ∀ table known, c.session.cache.get? table = some known ↔
    known.table = table ∧ LastTold history known
  /-- An entry changes only by what the request itself is told, whether it fails or not. -/
  request : ∀ (r : Request) (table : String),
    (r.run c.db c.session).2.cache.get? table = c.session.cache.get? table ∨
      ∃ known, known.table = table ∧ (r.run c.db c.session).2.cache.get? table = some known ∧
        LastTold (c.session.heard c.db.backend (r.run c.db c.session).2) known
  columns : ∀ table, (c.db.columns table c.session).2.calls =
    c.session.calls ++ if (c.session.cache.get? table).isSome then [] else [.describe table]
  /-- A query is built with one look-up at most. -/
  once : ∀ (r : Request) (table : String) (filter : Filter), r.Builds table filter →
    (r.run c.db c.session).2.calls = c.session.calls ∨
      (r.run c.db c.session).2.calls = c.session.calls ++ [.describe table]
  never : ∀ (r : Request) (table : String) (filter : Filter), r.Builds table filter →
    c.db.modifiers.isEmpty = true → (∀ key value, (key, value) ∈ filter → value ≠ .null) →
      (r.run c.db c.session).2.calls = c.session.calls

theorem coherent_after (db : Database σ) (server : σ) (actions : List Action) :
    Coherent ((Client.mk db (.start server)).after actions)
      ((Client.mk db (.start server)).history actions) where
  entry table known := by
    rw [cache_after]
    exact SchemaCache.get?_learn_empty _
  request r table := by
    have hlearned := r.learns_run ((Client.mk db (.start server)).after actions).db
      ((Client.mk db (.start server)).after actions).session
    rw [hlearned.cache_eq]
    exact SchemaCache.get?_learn_described _ fun e => Backend.exists_described_of_mem_replay
  columns table := Database.calls_columns _ table _
  once r table filter h := h.looksUpOnce.calls _
  never r table filter h hempty hnull := congrArg Session.calls (h.stays hempty hnull _)

/-- Tables are described by whatever answer comes next. -/
def scriptedTables : Database (List (Except Error (List Column))) where
  backend :=
    { dialect := .sqlite
      fetch _ := pure []
      execute _ := pure ⟨0, none⟩
      describe _ := fun answers => (answers.headD (.ok []), answers.tail) }
  settings := ⟨1, 100, "id"⟩
  modifiers := .empty

/-- The table is looked up, forgotten, and looked up again in vain by a delete; then it has another
column, and then it is gone. -/
theorem coherent_after_scriptedTables :
    ((Client.mk scriptedTables (.start
        [.ok [⟨"a", true⟩], .error (.backend .outOfRange), .ok [⟨"b", true⟩], .ok []])).after
      [.request (.columns "t"), .invalidate "t", .request (.delete "t" [("a", .null)]),
        .request (.refreshColumns "t"), .request (.refreshColumns "t")]).session.cache.get? "t" =
      some ⟨"t", [⟨"b", true⟩]⟩ := by
  refine ((coherent_after scriptedTables _ _).entry "t" ⟨"t", [⟨"b", true⟩]⟩).2 ⟨rfl, ?_⟩
  refine ⟨[.described "t" (.ok [⟨"a", true⟩]), .invalidated "t",
    .described "t" (.error (.backend .outOfRange))], [.described "t" (.ok [])], rfl, nofun, ?_⟩
  intro e he
  cases List.mem_singleton.1 he
  rintro (h | h | ⟨columns, h⟩) <;> cases h

end Client
end FilterSql

import FilterSql.Paging.Basic
import FilterSql.Paging.Cursor

/-!
# FilterSql.Paging.Seek

Pages by cursor: a page holds the first rows after a cursor, and the last row of a full page gives
the cursor of the next.

* `SeekPages.read`: one page.
* `SeekWalk.next`: page after page from a cursor on.
-/

namespace FilterSql

structure SeekPages where
  paged : PagedQuery
  ordering : OrderBy
  /-- The cursor of the page read last. -/
  currentKey : Option String
  /-- The cursor of the page after it, if it was full. -/
  lastResult : Option String
  exhausted : Bool

namespace SeekPages

/-- The ordering with the aliases written out; without the id it leaves ties open, so the id
follows in the direction of the last column. -/
def resolve (orderBy : OrderBy) (idColumn : String) : OrderBy :=
  let ordering : OrderBy := orderBy.map fun entry => (qualify entry.1, entry.2)
  if ordering.contains idColumn then ordering
  else ordering ++ [(qualify idColumn, (ordering.getLast?.map Prod.snd).getD .asc)]

def start {σ : Type} (db : Database σ) (query : SelectQuery) (pageSize : Nat)
    (idColumn : Option String) : Run (Session σ) SeekPages :=
  if query.isGrouped then .reject .seekGrouped
  else do
    let idColumn := idColumn.getD db.settings.idColumn
    let ordering := resolve query.orderBy idColumn
    let paged ← PagedQuery.start db { query with orderBy := ordering } pageSize (some idColumn)
    return ⟨paged, ordering, none, none, paged.resultCount == 0⟩

/-- The cursor that a key writes; no key is the start. -/
def cursor? : Option String → Except Error (Option SeekCursor)
  | none => .ok none
  | some key =>
    match SeekCursor.parse key with
    | .error e => .error e
    | .ok c => .ok (some c)

def pageQuery (p : SeekPages) (cursor : Option SeekCursor) : Except Error SelectQuery :=
  let query := { p.paged.query with limit := some p.paged.pageSize, offset := none }
  match cursor with
  | none => .ok query
  | some c =>
    match c.after p.ordering with
    | .error e => .error e
    | .ok group => .ok (query.andWhere group)

/-- The token of the page after some rows; a page that is not full is the last. -/
def nextToken (p : SeekPages) (rows : List Row) : Except Error (Option String) :=
  match rows.getLast? with
  | none => .ok none
  | some row =>
    if rows.length = p.paged.pageSize then
      match SeekCursor.ofRow row (SeekCursor.names p.ordering) with
      | .error e => .error e
      | .ok c => .ok (some c.token)
    else .ok none

def moveTo (p : SeekPages) (key next : Option String) : SeekPages :=
  { p with currentKey := key, lastResult := next, exhausted := next.isNone }

/-- The rows of the page after a key, or all rows; only the reading of a page is remembered. An
empty result is not asked for. -/
def read {σ : Type} (db : Database σ) (key : Option String) (all : Bool) :
    Run (SeekPages × Session σ) (List Row) := do
  let p ← Run.own
  if all then .inner (db.fetch p.paged.query)
  else
    let cursor ← .ofExcept (cursor? key)
    if p.paged.resultCount == 0 then
      Run.setOwn (p.moveTo key none)
      return []
    else
      let query ← .ofExcept (p.pageQuery cursor)
      let rows ← .inner (db.fetch query)
      let next ← .ofExcept (p.nextToken rows)
      Run.setOwn (p.moveTo key next)
      return rows

/-- The state as a report. -/
def toJson (p : SeekPages) : Json :=
  .obj [("pageSize", .ofNat p.paged.pageSize), ("resultCount", .ofNat p.paged.resultCount),
    ("pages", .ofNat p.paged.pages), ("lastResult", .ofOption .str p.lastResult)]

end SeekPages

/-! ## Walks -/

structure SeekPage where
  key : Option String
  rows : List Row
  next : Option String

namespace SeekPage

def toJson (page : SeekPage) : Json :=
  .obj [("key", .ofOption .str page.key), ("rows", .arr (page.rows.map .obj)),
    ("next", .ofOption .str page.next)]

end SeekPage

structure SeekWalk where
  pages : SeekPages
  /-- The cursor of the page to come. -/
  cursor : Option String
  exhausted : Bool

namespace SeekWalk

def start (pages : SeekPages) (cursor : Option String) : SeekWalk :=
  ⟨pages, cursor, pages.paged.resultCount == 0⟩

/-- A reading of a page whose cursor is taken off the walk beforehand. -/
def readTaking {σ : Type} (db : Database σ) (key : Option String) :
    Run (SeekWalk × Session σ) (List Row) := fun (walk, session) =>
  let (result, pages, session) := SeekPages.read db key false (walk.pages, session)
  (result, { walk with pages, cursor := none }, session)

/-- The next page; none at the end, which is behind a page that is not full or at an empty one. -/
def next {σ : Type} (db : Database σ) : Run (SeekWalk × Session σ) (Option SeekPage) := do
  let walk ← Run.own
  if walk.exhausted then return none
  else
    let rows ← readTaking db walk.cursor
    let read ← Run.own
    if rows.isEmpty then
      Run.setOwn { read with exhausted := true }
      return none
    else
      let next := read.pages.lastResult
      Run.setOwn { read with cursor := next, exhausted := next.isNone }
      return some ⟨walk.cursor, rows, next⟩

end SeekWalk
end FilterSql

import FilterSql.Paging.Basic

/-!
# FilterSql.Paging.Offset

Pages by number, counted from one. The rows before a page are skipped by the database.
-/

namespace FilterSql

structure OffsetPages where
  paged : PagedQuery
  /-- The page read last, and its neighbours; zero stands for none. -/
  page : Nat
  prev : Nat
  next : Nat

namespace OffsetPages

def start {σ : Type} (db : Database σ) (query : SelectQuery) (pageSize : Nat)
    (idColumn : Option String) : Run (Session σ) OffsetPages := do
  let paged ← PagedQuery.start db query pageSize idColumn
  return ⟨paged, 0, 0, 0⟩

/-- The last page that can be read: an empty result has one page. -/
def lastPage (p : OffsetPages) : Nat := max p.paged.pages 1

def pageQuery (p : OffsetPages) (page : Nat) : SelectQuery :=
  { p.paged.query with
    limit := some p.paged.pageSize, offset := some ((page - 1) * p.paged.pageSize) }

def moveTo (p : OffsetPages) (page : Nat) : OffsetPages :=
  { p with
    page
    prev := page - 1
    next := if page < p.paged.pages then page + 1 else 0 }

/-- The rows of a page, or all rows; only the reading of a page is remembered. -/
def read {σ : Type} (db : Database σ) (page : Nat) (all : Bool) :
    Run (OffsetPages × Session σ) (List Row) := do
  let p ← Run.own
  if page < 1 || p.lastPage < page then .reject (.pageOutside p.lastPage)
  else if all then .inner (db.fetch p.paged.query)
  else
    let rows ← .inner (db.fetch (p.pageQuery page))
    Run.setOwn (p.moveTo page)
    return rows

/-- The state as a report. -/
def toJson (p : OffsetPages) : Json :=
  .obj [("pageSize", .ofNat p.paged.pageSize), ("resultCount", .ofNat p.paged.resultCount),
    ("pages", .ofNat p.paged.pages), ("page", .ofNat p.page), ("prev", .ofNat p.prev),
    ("next", .ofNat p.next)]

end OffsetPages
end FilterSql

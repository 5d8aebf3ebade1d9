import FilterSql.Database.Basic

/-!
# FilterSql.Paging.Basic

A SELECT that is read in pages. Its rows are counted once, when paging starts.
-/

namespace FilterSql

structure PagedQuery where
  query : SelectQuery
  pageSize : Nat
  resultCount : Nat
  pageSize_pos : 0 < pageSize

namespace PagedQuery

/-- The number of pages; the last may be short. -/
def pages (p : PagedQuery) : Nat := (p.resultCount + p.pageSize - 1) / p.pageSize

def start {σ : Type} (db : Database σ) (query : SelectQuery) (pageSize : Nat)
    (idColumn : Option String) : Run (Session σ) PagedQuery :=
  if h : 0 < pageSize then do
    let resultCount ← db.countSelect query idColumn
    return ⟨query, pageSize, resultCount, h⟩
  else .reject .pageSize

end PagedQuery
end FilterSql

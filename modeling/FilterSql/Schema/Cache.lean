import FilterSql.Schema.Column

/-!
# FilterSql.Schema.Cache

The tables whose columns are known already, at most one entry for each table.
-/

namespace FilterSql

structure SchemaCache where
  entries : List TableColumns

namespace SchemaCache

def empty : SchemaCache := ⟨[]⟩

def get? (cache : SchemaCache) (table : String) : Option TableColumns :=
  cache.entries.find? fun t => t.table == table

def erase (cache : SchemaCache) (table : String) : SchemaCache :=
  ⟨cache.entries.filter fun t => t.table != table⟩

/-- Takes the place of an earlier entry for the same table. -/
def insert (cache : SchemaCache) (columns : TableColumns) : SchemaCache :=
  ⟨columns :: (cache.erase columns.table).entries⟩

/-- Drops a table, and tells whether it was there. -/
def invalidate (cache : SchemaCache) (table : String) : Bool × SchemaCache :=
  ((cache.get? table).isSome, cache.erase table)

def size (cache : SchemaCache) : Nat := cache.entries.length

end SchemaCache
end FilterSql

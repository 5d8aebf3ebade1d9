import FilterSql.Sql.Column
import FilterSql.Text.Cut

/-!
# FilterSql.Database.BuiltIn

The tables that every SQLite database has without anyone making them: the catalog, functions that
can be read as tables, and the settings, each of which is a table of what it answers. None of their
columns refuses NULL.

* `BuiltIn.ofName?`: the table of a name.
* `BuiltIn.resolves`: the columns that statements may name.
-/

namespace FilterSql

structure BuiltIn where
  names : List String
  columns : List String
  /-- Columns that statements may name though they are none of the table's. -/
  further : List String

namespace BuiltIn

def rowNumbers : List String := ["rowid", "_rowid_", "oid"]

def catalog : BuiltIn :=
  ⟨["sqlite_schema", "sqlite_master", "sqlite_temp_schema", "sqlite_temp_master"],
    ["type", "name", "tbl_name", "rootpage", "sql"], rowNumbers⟩

def functions : List BuiltIn :=
  [⟨["json_each", "json_tree"],
    ["key", "value", "type", "atom", "id", "parent", "fullkey", "path"],
    ["json", "root"] ++ rowNumbers⟩,
   ⟨["dbstat"],
    ["name", "path", "pageno", "pagetype", "ncell", "payload", "unused", "mx_payload", "pgoffset",
     "pgsize"],
    ["schema", "aggregate"] ++ rowNumbers⟩,
   ⟨["fts3tokenize"], ["input", "token", "start", "end", "position"], rowNumbers⟩]

/-- The settings that answer one column of their own name. -/
def plainSettings : List String :=
  ["analysis_limit", "application_id", "auto_vacuum", "automatic_index", "cache_size",
   "cache_spill", "cell_size_check", "checkpoint_fullfsync", "compile_options", "count_changes",
   "data_version", "defer_foreign_keys", "empty_result_callbacks", "encoding", "foreign_keys",
   "freelist_count", "full_column_names", "fullfsync", "hard_heap_limit",
   "ignore_check_constraints", "integrity_check", "journal_mode", "journal_size_limit",
   "legacy_alter_table", "locking_mode", "max_page_count", "optimize", "page_count", "page_size",
   "query_only", "quick_check", "read_uncommitted", "recursive_triggers",
   "reverse_unordered_selects", "schema_version", "secure_delete", "short_column_names",
   "soft_heap_limit", "synchronous", "temp_store", "threads", "trusted_schema", "user_version",
   "writable_schema"]

/-- The settings with other columns. -/
def otherSettings : List (String × List String) :=
  [("busy_timeout", ["timeout"]),
   ("collation_list", ["seq", "name"]),
   ("database_list", ["seq", "name", "file"]),
   ("default_cache_size", ["cache_size"]),
   ("foreign_key_check", ["table", "rowid", "parent", "fkid"]),
   ("foreign_key_list", ["id", "seq", "table", "from", "to", "on_update", "on_delete", "match"]),
   ("function_list", ["name", "builtin", "type", "enc", "narg", "flags"]),
   ("index_info", ["seqno", "cid", "name"]),
   ("index_list", ["seq", "name", "unique", "origin", "partial"]),
   ("index_xinfo", ["seqno", "cid", "name", "desc", "coll", "key"]),
   ("module_list", ["name"]),
   ("pragma_list", ["name"]),
   ("table_info", ["cid", "name", "type", "notnull", "dflt_value", "pk"]),
   ("table_list", ["schema", "name", "type", "ncol", "wr", "strict"]),
   ("table_xinfo", ["cid", "name", "type", "notnull", "dflt_value", "pk", "hidden"])]

def settings : List BuiltIn :=
  (plainSettings.map (fun name => (name, [name])) ++ otherSettings).map fun (name, columns) =>
    ⟨["pragma_" ++ name], columns, ["arg", "schema"] ++ rowNumbers⟩

def all : List BuiltIn := catalog :: functions ++ settings

/-- Whether a name is on a list; ASCII case is free. -/
def listed (names : List String) (name : List Char) : Bool :=
  names.any fun other => Text.sameWord other.toList name

def ofName? (table : String) : Option BuiltIn :=
  all.find? fun t => listed t.names table.toList

/-- Whether a column of a table is one of this table's, which statements call by its alias. -/
def resolves (t : BuiltIn) (table column : List Char) : Bool :=
  Text.sameWord table mainAlias.toList && (listed t.columns column || listed t.further column)

end BuiltIn
end FilterSql

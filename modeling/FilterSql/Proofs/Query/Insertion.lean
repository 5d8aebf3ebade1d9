import Mathlib.Data.List.Basic
import FilterSql.Proofs.Sql.Reader
import FilterSql.Query.Insert

/-!
# FilterSql.Proofs.Query.Insertion

What an INSERT says, read from its text and its values.

* `Insertion.read?`: the reading of a statement.
* `OnConflict.of`: what becomes of the columns when a row is there already.
* `InsertQuery.read?_statement`: a query of rows without gaps is read back as it is.
-/

namespace FilterSql

open Sql (Reader Reads GoesOn)

/-- What becomes of a row whose key is there already. -/
inductive OnConflict where
  /-- The statement fails. -/
  | fail
  /-- The row that is there stays. -/
  | keep (target : String)
  /-- Some columns of the row that is there take the new values. -/
  | overwrite (target : String) (columns : List String)
deriving DecidableEq

namespace OnConflict

/-- A conflict on the target overwrites all the other columns, if there are any. -/
def of (columns : List String) : Option String → OnConflict
  | none => .fail
  | some target =>
    match columns.filter fun c => c != target with
    | [] => .keep target
    | updated => .overwrite target updated

/-! ## Reading -/

/-- A column that takes the value of the row that was to be inserted. -/
def overwritten : Reader String := do
  let column ← Reader.name
  Reader.skip " = "
  Reader.named "excluded"
  Reader.skip "."
  Reader.named column
  return column

def action (target : String) : Reader OnConflict :=
  .orElse (do Reader.skip " DO NOTHING"; return keep target)
    (do
      Reader.skip " DO UPDATE SET "
      let columns ← Reader.list overwritten
      return overwrite target columns)

def read : Reader OnConflict :=
  .orElse
    (do
      Reader.skip " ON CONFLICT ("
      let target ← Reader.name
      Reader.skip ")"
      action target)
    (return fail)

end OnConflict

structure Insertion where
  table : String
  columns : List String
  /-- None is NULL. -/
  rows : List (List (Option Bound))
  onConflict : OnConflict
deriving DecidableEq

namespace Insertion

def row (dialect : Dialect) : Reader (List (Option Bound)) := do
  Reader.skip "("
  let values ← Reader.list (Reader.cell dialect)
  Reader.skip ")"
  return values

def read (dialect : Dialect) : Reader Insertion := do
  Reader.skip "INSERT INTO "
  let table ← Reader.name
  Reader.skip " ("
  let columns ← Reader.list Reader.name
  Reader.skip ")"
  Reader.skip " VALUES "
  let rows ← Reader.list (row dialect)
  let onConflict ← OnConflict.read
  return ⟨table, columns, rows, onConflict⟩

def read? (dialect : Dialect) (statement : Statement) : Option Insertion :=
  (read dialect).whole? statement

end Insertion

/-! ## Parts -/

variable {dialect : Dialect} {follow : Char → Bool}

namespace OnConflict

theorem reads_overwritten (column : String) :
    Reads dialect Sql.isPlain overwritten
      [.name column, .text " = ", .name "excluded", .text ".", .name column] column := by
  have hcolumn : Reads dialect Sql.isPlain (do Reader.named column; return column)
      [.name column] column := (Sql.reads_named column).map fun _ => column
  have hexcluded : Reads dialect Sql.isPlain
      (do Reader.named "excluded"; Reader.skip "."; Reader.named column; return column)
      [.name "excluded", .text ".", .name column] column :=
    (Sql.reads_named "excluded").bind_skip (c := '.') rfl (by decide) hcolumn
  exact (Sql.reads_name column).bind_skip (c := ' ') rfl (by decide) hexcluded

theorem reads_keep (target : String) :
    Reads dialect follow (action target) [.text " DO NOTHING"] (keep target) :=
  (Reads.skip " DO NOTHING" (Reads.pure (keep target))).orElse

theorem reads_overwrite (target : String) {columns : List String} (h : columns ≠ []) :
    Reads dialect Sql.endsList (action target)
      (.text " DO UPDATE SET " :: Sql.commaSeparated (columns.map fun c =>
        [.name c, .text " = ", .name "excluded", .text ".", .name c]))
      (overwrite target columns) := by
  have hcolumns : Reads dialect Sql.endsList (Reader.list overwritten) _ columns :=
    Sql.reads_list (fun c _ => reads_overwritten c) h
  intro n rest values hr
  exact (Reader.orElse_of_none rfl).trans
    (Reads.skip " DO UPDATE SET " (hcolumns.map (overwrite target)) n rest values hr)

theorem reads_pieces (columns : List String) (conflict : Option String) :
    Reads dialect (fun _ => false) read (InsertQuery.conflictPieces columns conflict)
      (of columns conflict) := by
  cases conflict with
  | none =>
    intro n rest values hr
    cases rest with
    | nil => rfl
    | cons c rest => exact absurd (hr c rfl) Bool.false_ne_true
  | some target =>
    refine Reads.orElse (Reads.skip " ON CONFLICT (" ((Sql.reads_name target).bind_skip (c := ')')
      rfl (by decide) ?_))
    rw [of]
    cases columns.filter fun c => c != target with
    | nil => exact reads_keep target
    | cons c updated =>
      exact (reads_overwrite target (List.cons_ne_nil c updated)).mono fun _ h =>
        absurd h Bool.false_ne_true

end OnConflict

theorem Insertion.reads_row {values : List (Option Bound)} (h : values ≠ []) :
    Reads dialect follow (Insertion.row dialect) (InsertQuery.rowPieces values) values :=
  have hcells := Sql.reads_list (fun value _ => Sql.reads_cell value) h
  Reads.skip "(" (hcells.bind_skip (c := ')') rfl (by decide) (Reads.pure values))

/-! ## Statements -/

namespace InsertQuery

theorem valuesPieces_of_ne_nil {rows : List (List (Option Bound))} (hne : rows ≠ [])
    (h : ∀ row ∈ rows, row ≠ []) :
    valuesPieces rows = .text " VALUES " :: Sql.commaSeparated (rows.map rowPieces) := by
  have hall : (rows.filter fun row => !row.isEmpty) = rows := by
    rw [List.filter_eq_self]
    intro row hrow
    simpa using h row hrow
  rw [valuesPieces, hall]
  cases rows with
  | nil => exact absurd rfl hne
  | cons row rest => rfl

/-- Behind the rows is the end of the statement, or a blank. -/
theorem goesOn_conflictPieces (columns : List String) (conflict : Option String) (n : Nat)
    {rest : List Char} (hr : GoesOn (fun _ => false) rest) :
    GoesOn Sql.endsList (Sql.Piece.write dialect n (conflictPieces columns conflict) ++ rest) := by
  cases conflict with
  | none => exact fun c hc => absurd (hr c hc) Bool.false_ne_true
  | some target => exact Sql.goesOn_text (c := ' ') rfl (by decide) _ n rest

theorem read?_statement (q : InsertQuery) (dialect : Dialect) (hcolumns : q.columns ≠ [])
    (hrows : q.rows ≠ []) (hwidth : ∀ row ∈ q.rows, row ≠ []) :
    Insertion.read? dialect (q.statement dialect) =
      some ⟨q.table, q.columns, q.rows, .of q.columns q.conflict⟩ := by
  have htable : Reads dialect Sql.isPlain Reader.name [.name q.table] q.table :=
    Sql.reads_name q.table
  have hnames : Reads dialect Sql.endsList (Reader.list Reader.name) (namePieces q.columns)
      q.columns := Sql.reads_list (fun c _ => Sql.reads_name c) hcolumns
  have hvalues : Reads dialect Sql.endsList (Reader.list (Insertion.row dialect))
      (Sql.commaSeparated (q.rows.map rowPieces)) q.rows :=
    Sql.reads_list (fun row hrow => Insertion.reads_row (hwidth row hrow)) hrows
  have hconflict : Reads dialect (fun _ => false) OnConflict.read _ (.of q.columns q.conflict) :=
    OnConflict.reads_pieces q.columns q.conflict
  have hpieces : q.pieces = .text "INSERT INTO " :: ([.name q.table] ++ .text " (" ::
      (namePieces q.columns ++ .text ")" :: .text " VALUES " ::
        (Sql.commaSeparated (q.rows.map rowPieces) ++ conflictPieces q.columns q.conflict))) := by
    simp [pieces, valuesPieces_of_ne_nil hrows hwidth]
  have hread : Reads dialect (fun _ => false) (Insertion.read dialect) q.pieces
      ⟨q.table, q.columns, q.rows, .of q.columns q.conflict⟩ := by
    rw [hpieces]
    refine Reads.skip _ (htable.bind_skip (c := ' ') rfl (by decide) ?_)
    refine hnames.bind_skip (c := ')') rfl (by decide) (Reads.skip _ ?_)
    exact hvalues.bind (hconflict.map _) fun n _ hr => goesOn_conflictPieces _ _ n hr
  exact hread.whole?

example :
    Insertion.read? .postgres
        ⟨"INSERT INTO \"items\" (\"id\", \"name\") VALUES ($1, NULL), ($2, $3)",
          [.int 1, .int 2, .text "pen"]⟩ =
      some ⟨"items", ["id", "name"], [[some (.int 1), none], [some (.int 2), some (.text "pen")]],
        .fail⟩ := by decide +kernel

theorem binds_conflictPieces (columns : List String) (conflict : Option String) :
    Sql.binds (conflictPieces columns conflict) = [] := by
  cases conflict with
  | none => rfl
  | some target =>
    simp only [conflictPieces]
    split <;> simp [Sql.commaSeparated, Sql.binds_separated, List.flatMap_map]

theorem binds_rowPieces (values : List (Option Bound)) :
    Sql.binds (rowPieces values) = values.filterMap id := by
  simp [rowPieces, Sql.commaSeparated, Sql.binds_separated, List.flatMap_map,
    List.filterMap_eq_flatMap_toList]

/-- Rows without columns are left out, which bind nothing. -/
theorem binds_valuesPieces (rows : List (List (Option Bound))) :
    Sql.binds (valuesPieces rows) = rows.flatMap fun row => row.filterMap id := by
  have hwritten : Sql.binds (valuesPieces rows) =
      (rows.filter fun row => !row.isEmpty).flatMap fun row => row.filterMap id := by
    rw [valuesPieces]
    cases rows.filter fun row => !row.isEmpty with
    | nil => rfl
    | cons row rest =>
      simp [Sql.commaSeparated, Sql.binds_separated, List.flatMap_map, binds_rowPieces]
  rw [hwritten]
  clear hwritten
  induction rows with
  | nil => rfl
  | cons row rest ih =>
    cases row with
    | nil => exact ih
    | cons cell row => simpa using ih

/-- NULL binds nothing, and every other cell its value. -/
theorem statement_args (q : InsertQuery) (dialect : Dialect) :
    (q.statement dialect).args = q.rows.flatMap fun row => row.filterMap id := by
  simp [statement, Statement.ofPieces_args, pieces, namePieces, binds_valuesPieces,
    binds_conflictPieces, Sql.commaSeparated, Sql.binds_separated, List.flatMap_map]

end InsertQuery
end FilterSql

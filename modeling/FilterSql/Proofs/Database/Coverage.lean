import Mathlib.Data.List.Forall2
import FilterSql.Proofs.Database.Bulk
import FilterSql.Proofs.Database.Outcome
import FilterSql.Proofs.Filter.Bindable
import FilterSql.Proofs.Json.Fields
import FilterSql.Proofs.Query.Insertion

/-!
# FilterSql.Proofs.Database.Coverage

Inserts of many rows put exactly these rows into their table, whatever the settings allow in one
statement.

* `chunks_flatten`, `length_of_mem_chunks`, `length_of_mem_dropLast_chunks`: how a list is cut.
* `Database.insertPlan_cons_eq_ok`: what a plan that was accepted is.
* `Statement.Inserts`: a statement that says, when it is read, that some rows are inserted.
* `Database.bulk_covers_rows`: the statements that are sent insert the rows, each once.
-/

namespace FilterSql

/-! ## Parts of a list -/

variable {α β : Type} {n : Nat}

theorem chunks_flatten (n : Nat) (items : List α) : (chunks n items).flatten = items := by
  induction items using chunks.induct n with
  | case1 => simp [chunks]
  | case2 x rest ih =>
    rw [chunks, List.flatten_cons, ih, List.cons_append, List.take_append_drop]

theorem length_of_mem_chunks (hn : 1 ≤ n) {items part : List α} (h : part ∈ chunks n items) :
    1 ≤ part.length ∧ part.length ≤ n := by
  induction items using chunks.induct n with
  | case1 => simp [chunks] at h
  | case2 x rest ih =>
    rw [chunks, List.mem_cons] at h
    obtain rfl | h := h
    · rw [List.length_cons, List.length_take]
      omega
    · exact ih h

theorem length_of_mem_dropLast_chunks (hn : 1 ≤ n) {items part : List α}
    (h : part ∈ (chunks n items).dropLast) : part.length = n := by
  induction items using chunks.induct n with
  | case1 => simp [chunks] at h
  | case2 x rest ih =>
    rw [chunks] at h
    cases hrest : rest.drop (n - 1) with
    | nil => simp [hrest, chunks] at h
    | cons y more =>
      -- Something is left, so that the first part has all its members.
      have hlen : n - 1 < rest.length := by
        rw [← Nat.not_le, ← List.drop_eq_nil_iff, hrest]
        exact List.cons_ne_nil y more
      rw [hrest] at ih h
      rw [chunks, List.dropLast_cons_cons, List.mem_cons, ← chunks] at h
      obtain rfl | h := h
      · rw [List.length_cons, List.length_take]
        omega
      · exact ih h

theorem chunks_forall₂ {R : α → β → Prop} (n : Nat) {as : List α} {bs : List β}
    (h : List.Forall₂ R as bs) :
    List.Forall₂ (List.Forall₂ R) (chunks n as) (chunks n bs) := by
  induction as using chunks.induct n generalizing bs with
  | case1 => cases h; simp [chunks]
  | case2 x rest ih =>
    cases h with
    | cons hx hrest =>
      rw [chunks, chunks]
      exact .cons (.cons hx (List.forall₂_take _ hrest)) (ih (List.forall₂_drop _ hrest))

theorem Settings.one_le_batchSize (settings : Settings) (columns : Nat) :
    1 ≤ settings.batchSize columns := Nat.le_max_left _ _

theorem Settings.batchSize_le (settings : Settings) (columns : Nat) :
    settings.batchSize columns ≤ max 1 settings.maxBatchRows := by
  simp only [batchSize]
  omega

/-- The values of a full statement keep to the limit, unless a single row is beyond it. -/
theorem Settings.batchSize_mul_le (settings : Settings) {columns : Nat} (h : 1 ≤ columns) :
    settings.batchSize columns * columns ≤ max settings.maxBindParams columns := by
  have hrows : min settings.maxBatchRows (settings.maxBindParams / columns) * columns ≤
      settings.maxBindParams :=
    Nat.le_trans (Nat.mul_le_mul_right columns (Nat.min_le_right _ _)) (Nat.div_mul_le_self _ _)
  rw [batchSize, Nat.max_eq_right h]
  generalize min settings.maxBatchRows (settings.maxBindParams / columns) = rows at hrows
  rcases Nat.le_total 1 rows with hle | hle
  · rw [Nat.max_eq_right hle]
    exact Nat.le_trans hrows (Nat.le_max_left _ _)
  · rw [Nat.max_eq_left hle, Nat.one_mul]
    exact Nat.le_max_right _ _

/-! ## Rows and cells -/

/-- The cell of a column has the value of the row: NULL for null, and otherwise the bound form of
the value. -/
def HoldsValue (row : Row) (column : String) (cell : Option Bound) : Prop :=
  ∃ value, Fields.get? row column = some value ∧ value.WrittenAs cell

/-- Row by row, each with a cell for every column. -/
def HoldRows (columns : List String) : List Row → List (List (Option Bound)) → Prop :=
  List.Forall₂ fun row => List.Forall₂ (HoldsValue row) columns

def SameKeys (row : Row) (columns : List String) : Prop :=
  ∀ key, key ∈ Fields.keys row ↔ key ∈ columns

theorem HoldRows.length_eq {columns : List String} {rows : List Row}
    {cells : List (List (Option Bound))} (h : HoldRows columns rows cells) :
    ∀ row ∈ cells, row.length = columns.length := by
  induction h with
  | nil => intro row hrow; cases hrow
  | cons hfirst _ ih =>
    intro row hrow
    obtain rfl | hrow := List.mem_cons.1 hrow
    · exact hfirst.length_eq.symm
    · exact ih row hrow

namespace Database

theorem sameKeys_iff {row : Row} {columns : List String} :
    sameKeys (Fields.keys row) columns = true ↔ SameKeys row columns := by
  simp only [sameKeys, Bool.and_eq_true, List.all_eq_true, List.contains_iff_mem, SameKeys]
  exact ⟨fun h key => ⟨h.1 key, h.2 key⟩, fun h => ⟨fun key => (h key).1, fun key => (h key).2⟩⟩

theorem checkColumns_eq_ok {columns : List String} {index : Nat} {rows : List Row}
    (h : checkColumns columns index rows = .ok ()) : ∀ row ∈ rows, SameKeys row columns := by
  induction rows generalizing index with
  | nil => intro row hrow; cases hrow
  | cons first rest ih =>
    rw [checkColumns] at h
    split at h
    case isFalse => cases h
    case isTrue hfirst =>
      intro row hrow
      obtain rfl | hrow := List.mem_cons.1 hrow
      · exact sameKeys_iff.1 hfirst
      · exact ih h row hrow

theorem checkColumns_error {columns : List String} {index : Nat} {rows : List Row} {e : Error}
    (h : checkColumns columns index rows = .error e) : e.isInvalidArgument = true := by
  induction rows generalizing index with
  | nil => cases h
  | cons first rest ih =>
    rw [checkColumns] at h
    split at h
    case isTrue => exact ih h
    case isFalse => cases h; rfl

theorem holdsValue_of_ofCell {row : Row} {column : String} {cell : Option Bound}
    (hkey : column ∈ Fields.keys row)
    (h : Bound.ofCell column ((Fields.get? row column).getD .null) = .ok cell) :
    HoldsValue row column cell := by
  obtain ⟨value, hvalue⟩ := Option.isSome_iff_exists.1 (Fields.isSome_get?_iff.2 hkey)
  rw [hvalue, Option.getD_some] at h
  exact ⟨value, hvalue, Bound.writtenAs_of_ofCell h⟩

theorem cells_eq_ok {row : Row} {columns : List String} {values : List (Option Bound)}
    (hkeys : ∀ column ∈ columns, column ∈ Fields.keys row) (h : cells row columns = .ok values) :
    List.Forall₂ (HoldsValue row) columns values := by
  induction columns generalizing values with
  | nil => cases h; exact .nil
  | cons column rest ih =>
    rw [cells_cons] at h
    obtain ⟨value, hvalue, h⟩ := bind_eq_ok h
    obtain ⟨more, hmore, h⟩ := bind_eq_ok h
    cases h
    exact .cons (holdsValue_of_ofCell (hkeys _ List.mem_cons_self) hvalue)
      (ih (fun c hc => hkeys c (List.mem_cons_of_mem _ hc)) hmore)

theorem cells_error {row : Row} {columns : List String} {e : Error}
    (h : cells row columns = .error e) : e.isInvalidArgument = true := by
  induction columns with
  | nil => cases h
  | cons column rest ih =>
    rw [cells_cons] at h
    obtain hvalue | ⟨value, -, h⟩ := bind_eq_error h
    · exact Bound.ofCell_error hvalue
    obtain hmore | ⟨more, -, h⟩ := bind_eq_error h
    · exact ih hmore
    · cases h

theorem cellRows_eq_ok {columns : List String} {rows : List Row}
    {values : List (List (Option Bound))} (hkeys : ∀ row ∈ rows, SameKeys row columns)
    (h : cellRows columns rows = .ok values) : HoldRows columns rows values := by
  induction rows generalizing values with
  | nil => cases h; exact .nil
  | cons row rest ih =>
    rw [cellRows_cons] at h
    obtain ⟨first, hfirst, h⟩ := bind_eq_ok h
    obtain ⟨more, hmore, h⟩ := bind_eq_ok h
    cases h
    have hrow := hkeys row List.mem_cons_self
    exact .cons (cells_eq_ok (fun c hc => (hrow c).2 hc) hfirst)
      (ih (fun r hr => hkeys r (List.mem_cons_of_mem _ hr)) hmore)

theorem cellRows_error {columns : List String} {rows : List Row} {e : Error}
    (h : cellRows columns rows = .error e) : e.isInvalidArgument = true := by
  induction rows with
  | nil => cases h
  | cons row rest ih =>
    rw [cellRows_cons] at h
    obtain hfirst | ⟨first, -, h⟩ := bind_eq_error h
    · exact cells_error hfirst
    obtain hmore | ⟨more, -, h⟩ := bind_eq_error h
    · exact ih hmore
    · cases h

/-! ## The plan -/

variable {σ : Type} {db : Database σ} {table : String}

/-- One statement of a plan. -/
def batchInsert (db : Database σ) (table : String) (columns : List String) (upsert : Bool)
    (batch : List (List (Option Bound))) : InsertQuery :=
  { InsertQuery.ofTable table columns (if upsert then some db.settings.idColumn else none) with
    rows := batch }

theorem insertPlan_cons_eq_ok {first : Row} {rest : List Row} {upsert : Bool}
    {plan : List InsertQuery} (h : db.insertPlan table (first :: rest) upsert = .ok plan) :
    Fields.keys first ≠ [] ∧ (∀ row ∈ first :: rest, SameKeys row (Fields.keys first)) ∧
      ∃ values, HoldRows (Fields.keys first) (first :: rest) values ∧
        plan = (chunks (db.settings.batchSize (Fields.keys first).length) values).map
          (db.batchInsert table (Fields.keys first) upsert) := by
  cases hempty : (Fields.keys first).isEmpty with
  | true => simp [insertPlan, hempty] at h
  | false =>
    rw [insertPlan_cons db table upsert hempty] at h
    obtain ⟨⟨⟩, hkeys, h⟩ := bind_eq_ok h
    obtain ⟨values, hvalues, h⟩ := bind_eq_ok h
    cases h
    have hsame := checkColumns_eq_ok hkeys
    exact ⟨by simpa using hempty, hsame, values, cellRows_eq_ok hsame hvalues, rfl⟩

theorem insertPlan_error {rows : List Row} {upsert : Bool} {e : Error}
    (h : db.insertPlan table rows upsert = .error e) : e.isInvalidArgument = true := by
  cases rows with
  | nil => cases h
  | cons first rest =>
    cases hempty : (Fields.keys first).isEmpty with
    | true =>
      simp only [insertPlan, hempty, if_true] at h
      cases h
      rfl
    | false =>
      rw [insertPlan_cons db table upsert hempty] at h
      obtain hkeys | ⟨-, -, h⟩ := bind_eq_error h
      · exact checkColumns_error hkeys
      obtain hvalues | ⟨values, -, h⟩ := bind_eq_error h
      · exact cellRows_error hvalues
      · cases h

end Database

/-! ## Statements -/

/-- The statement puts these rows into a table: when it is read it has cells for each of them. -/
def Statement.Inserts (dialect : Dialect) (table : String) (columns : List String)
    (onConflict : OnConflict) (rows : List Row) (statement : Statement) : Prop :=
  ∃ cells, Insertion.read? dialect statement = some ⟨table, columns, cells, onConflict⟩ ∧
    HoldRows columns rows cells

/-- As many values as cells at most. -/
theorem length_values_le {columns : Nat} {cells : List (List (Option Bound))}
    (h : ∀ row ∈ cells, row.length = columns) :
    (cells.flatMap fun row => row.filterMap id).length ≤ cells.length * columns := by
  induction cells with
  | nil => exact Nat.zero_le _
  | cons row cells ih =>
    have hfirst := List.length_filterMap_le id row
    have hrest := ih fun r hr => h r (List.mem_cons_of_mem _ hr)
    rw [h row List.mem_cons_self] at hfirst
    rw [List.flatMap_cons, List.length_append, List.length_cons, Nat.add_mul, Nat.one_mul]
    omega

namespace Database

variable {σ : Type} {db : Database σ} {table : String} {columns : List String} {upsert : Bool}
  {rows : List Row} {cells : List (List (Option Bound))}

theorem ne_nil_of_length (hcolumns : columns ≠ [])
    (h : ∀ row ∈ cells, row.length = columns.length) : ∀ row ∈ cells, row ≠ [] := by
  rintro row hrow rfl
  exact hcolumns (List.length_eq_zero_iff.1 (h [] hrow).symm)

theorem inserts_batchInsert (hcolumns : columns ≠ []) (hcells : cells ≠ [])
    (h : HoldRows columns rows cells) :
    ((db.batchInsert table columns upsert cells).statement db.dialect).Inserts db.dialect table
      columns (.of columns (if upsert then some db.settings.idColumn else none)) rows :=
  have hwidth := ne_nil_of_length hcolumns h.length_eq
  ⟨cells, InsertQuery.read?_statement _ _ hcolumns hcells hwidth, h⟩

theorem args_batchInsert (hcolumns : columns ≠ [])
    (h : ∀ row ∈ cells, row.length = columns.length)
    (hle : cells.length ≤ db.settings.batchSize columns.length) :
    ((db.batchInsert table columns upsert cells).statement db.dialect).args.length ≤
      max db.settings.maxBindParams columns.length := by
  have hone : 1 ≤ columns.length := List.length_pos_iff.2 hcolumns
  rw [InsertQuery.statement_args]
  calc (cells.flatMap fun row => row.filterMap id).length
      ≤ cells.length * columns.length := length_values_le h
    _ ≤ db.settings.batchSize columns.length * columns.length := Nat.mul_le_mul_right _ hle
    _ ≤ max db.settings.maxBindParams columns.length := db.settings.batchSize_mul_le hone

/-- The statements insert the rows, each once and in their order, in batches that keep to the
settings. -/
structure Covers (db : Database σ) (table : String) (columns : List String)
    (onConflict : OnConflict) (rows : List Row) (batches : List (List Row))
    (statements : List Statement) : Prop where
  keys : ∀ row ∈ rows, SameKeys row columns
  rows : batches.flatten = rows
  inserts : List.Forall₂ (fun batch statement =>
    statement.Inserts db.dialect table columns onConflict batch) batches statements
  length : ∀ batch ∈ batches, 1 ≤ batch.length ∧ batch.length ≤ max 1 db.settings.maxBatchRows
  same_length : ∃ size, ∀ batch ∈ batches.dropLast, batch.length = size
  values : ∀ statement ∈ statements,
    statement.args.length ≤ max db.settings.maxBindParams columns.length

theorem covers_of_insertPlan {first : Row} {rest : List Row} {plan : List InsertQuery}
    (h : db.insertPlan table (first :: rest) upsert = .ok plan) :
    ∃ batches, db.Covers table (Fields.keys first)
      (.of (Fields.keys first) (if upsert then some db.settings.idColumn else none))
      (first :: rest) batches (db.planned plan) := by
  obtain ⟨hcolumns, hkeys, values, hvalues, rfl⟩ := insertPlan_cons_eq_ok h
  have hone := db.settings.one_le_batchSize (Fields.keys first).length
  have hmax := db.settings.batchSize_le (Fields.keys first).length
  refine ⟨chunks (db.settings.batchSize (Fields.keys first).length) (first :: rest), hkeys,
    chunks_flatten _ _, ?inserts, ?length, ?same_length, ?values⟩
  case inserts =>
    rw [planned, List.map_map, List.forall₂_map_right_iff]
    have hbatches := (List.forall₂_and_left _ _).2
      ⟨fun _ hbatch => length_of_mem_chunks hone hbatch,
        chunks_forall₂ (db.settings.batchSize (Fields.keys first).length) hvalues⟩
    refine hbatches.imp fun batch cells hbatch => inserts_batchInsert hcolumns ?_ hbatch.2
    rw [← List.length_pos_iff, ← List.Forall₂.length_eq hbatch.2]
    exact hbatch.1.1
  case length =>
    intro batch hbatch
    have hlength := length_of_mem_chunks hone hbatch
    exact ⟨hlength.1, Nat.le_trans hlength.2 hmax⟩
  case same_length => exact ⟨_, fun batch hbatch => length_of_mem_dropLast_chunks hone hbatch⟩
  case values =>
    intro statement hstatement
    rw [planned, List.map_map] at hstatement
    obtain ⟨cells, hcells, rfl⟩ := List.mem_map.1 hstatement
    have hlength := length_of_mem_chunks hone hcells
    refine args_batchInsert hcolumns (fun row hrow => ?_) hlength.2
    have hmem : row ∈ values := by
      rw [← chunks_flatten (db.settings.batchSize (Fields.keys first).length) values]
      exact List.mem_flatten.2 ⟨cells, hcells, hrow⟩
    exact hvalues.length_eq row hmem

end Database

/-! ## Whole calls -/

/-- The database takes every statement that changes rows. -/
def Backend.AcceptsAll {σ : Type} (backend : Backend σ) : Prop :=
  ∀ statement server, ∃ result, (backend.execute statement server).1 = .ok result

theorem Backend.answers_of_acceptsAll {σ : Type} {backend : Backend σ} (h : backend.AcceptsAll)
    (statements : List Statement) (server : σ) :
    ∃ results : List ExecResult, backend.answers statements server = results.map .ok := by
  induction statements generalizing server with
  | nil => exact ⟨[], rfl⟩
  | cons statement rest ih =>
    obtain ⟨result, hresult⟩ := h statement server
    obtain ⟨results, hresults⟩ := ih (backend.execute statement server).2
    exact ⟨result :: results, by rw [Backend.answers, hresult, hresults, List.map_cons]⟩

namespace Database

variable {σ : Type} {db : Database σ} {table : String}

theorem insertAll_of_accepted {rows : List Row} {upsert : Bool} {s : Session σ}
    (h : ∀ e, (db.insertAll table rows upsert s).1 = .error e → e.isInvalidArgument = false)
    (hdb : db.backend.AcceptsAll) :
    ∃ plan result after, db.insertPlan table rows upsert = .ok plan ∧
      db.insertAll table rows upsert s = (.ok result, after) ∧
      after.calls = s.calls ++ (db.planned plan).map .execute := by
  cases hplan : db.insertPlan table rows upsert with
  | error e =>
    have hrejected := h e (by rw [insertAll, hplan]; rfl)
    rw [insertPlan_error hplan] at hrejected
    cases hrejected
  | ok plan =>
    obtain ⟨results, hanswers⟩ := Backend.answers_of_acceptsAll hdb (db.planned plan) s.server
    obtain ⟨after, hrun, hcalls⟩ := runInserts_of_ok table ⟨0, none⟩ hanswers
    exact ⟨plan, _, after, rfl, (insertAll_of_insertPlan hplan s).trans hrun, hcalls⟩

theorem insertAll_covers {first : Row} {rest : List Row} {upsert : Bool} {s : Session σ}
    (h : ∀ e, (db.insertAll table (first :: rest) upsert s).1 = .error e →
      e.isInvalidArgument = false)
    (hdb : db.backend.AcceptsAll) :
    ∃ batches statements result after,
      db.insertAll table (first :: rest) upsert s = (.ok result, after) ∧
      after.calls = s.calls ++ statements.map .execute ∧
      db.Covers table (Fields.keys first)
        (.of (Fields.keys first) (if upsert then some db.settings.idColumn else none))
        (first :: rest) batches statements := by
  obtain ⟨plan, result, after, hplan, hrun, hcalls⟩ := insertAll_of_accepted h hdb
  obtain ⟨batches, hcovers⟩ := covers_of_insertPlan hplan
  exact ⟨batches, db.planned plan, result, after, hrun, hcalls, hcovers⟩

theorem bulk_covers_rows (db : Database σ) (hdb : db.backend.AcceptsAll) (table : String)
    (first : Row) (rest : List Row) (s : Session σ) :
    ((∀ e, (db.insertRows table (first :: rest) s).1 = .error e → e.isInvalidArgument = false) →
      ∃ batches statements count after,
        db.insertRows table (first :: rest) s = (.ok count, after) ∧
        after.calls = s.calls ++ statements.map .execute ∧
        db.Covers table (Fields.keys first) .fail (first :: rest) batches statements) ∧
    ((∀ e, (db.upsertRows table (first :: rest) s).1 = .error e → e.isInvalidArgument = false) →
      ∃ batches statements result after,
        db.upsertRows table (first :: rest) s = (.ok result, after) ∧
        after.calls = s.calls ++ statements.map .execute ∧
        db.Covers table (Fields.keys first)
          (.of (Fields.keys first) (some db.settings.idColumn)) (first :: rest) batches
          statements) := by
  constructor
  · intro haccepted
    have haccepted' : ∀ e, (db.insertAll table (first :: rest) false s).1 = .error e →
        e.isInvalidArgument = false := fun e he =>
      haccepted e (congrArg Prod.fst (insertRows_of_error (Prod.ext he rfl)))
    obtain ⟨batches, statements, result, after, hrun, hcalls, hcovers⟩ :=
      insertAll_covers haccepted' hdb
    exact ⟨batches, statements, result.rowsAffected, after, insertRows_of_ok hrun, hcalls, hcovers⟩
  · intro haccepted
    exact insertAll_covers haccepted hdb

/-! ## Three items in two statements -/

def takesAll : Database Unit where
  backend :=
    { dialect := .postgres
      fetch _ := pure []
      execute _ := pure ⟨1, none⟩
      describe _ := pure [] }
  settings := ⟨2, 100, "id"⟩
  modifiers := .empty

def pen : Row := [("id", .ofNat 1), ("name", .str "pen")]

/-- The keys of the first one stand in another order, and it has no name. -/
def laterItems : List Row :=
  [[("name", .null), ("id", .ofNat 2)], [("id", .ofNat 3), ("name", .str "ink")]]

theorem bulk_covers_rows_items :
    takesAll.backend.AcceptsAll ∧
    (takesAll.insertRows "items" (pen :: laterItems) (.start ())).1 = .ok 2 ∧
    (takesAll.upsertRows "items" (pen :: laterItems) (.start ())).1 = .ok ⟨2, none⟩ ∧
    (∃ batches statements count after,
      takesAll.insertRows "items" (pen :: laterItems) (.start ()) = (.ok count, after) ∧
      after.calls = [] ++ statements.map .execute ∧
      takesAll.Covers "items" ["id", "name"] .fail (pen :: laterItems) batches statements) ∧
    ∃ batches statements result after,
      takesAll.upsertRows "items" (pen :: laterItems) (.start ()) = (.ok result, after) ∧
      after.calls = [] ++ statements.map .execute ∧
      takesAll.Covers "items" ["id", "name"] (.overwrite "id" ["name"]) (pen :: laterItems) batches
        statements := by
  have haccepts : takesAll.backend.AcceptsAll := fun _ _ => ⟨_, rfl⟩
  have hinsert : (takesAll.insertRows "items" (pen :: laterItems) (.start ())).1 = .ok 2 := by
    decide +kernel
  have hupsert : (takesAll.upsertRows "items" (pen :: laterItems) (.start ())).1 =
      .ok ⟨2, none⟩ := by decide +kernel
  have hcovers := bulk_covers_rows takesAll haccepts "items" pen laterItems (.start ())
  refine ⟨haccepts, hinsert, hupsert, hcovers.1 fun e he => ?_, hcovers.2 fun e he => ?_⟩
  · rw [hinsert] at he
    cases he
  · rw [hupsert] at he
    cases he

end Database
end FilterSql

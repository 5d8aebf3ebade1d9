import FilterSql.Proofs.Query.Insertion
import FilterSql.Proofs.Query.Values
import FilterSql.Proofs.Sql.Placeholders
import FilterSql.Query.Change

/-!
# FilterSql.Proofs.Query.Placeholders

The values of statements of every kind stand in the order of their placeholders.

* `LinesUp`: a statement shows one placeholder for each value, numbered from one.
* `Statement.values_line_up`: which values the statements bind, and that they line up. The
  expressions of a selection are the caller's own text, so of a SELECT the text behind the selection
  is meant.
-/

namespace FilterSql

open Sql (binds inert)

/-- A statement binds some values in every dialect. Behind a head that is the same in every dialect
its text shows a placeholder for each value; those of PostgreSQL carry the numbers from one on in
the order of the values. -/
structure LinesUp (statement : Dialect → Statement) (head : String) (values : List Bound) :
    Prop where
  args : ∀ dialect, (statement dialect).args = values
  placeholders : ∀ dialect, ∃ rest, (statement dialect).sql = head ++ rest ∧
    Sql.placeholders false rest.toList =
      (List.range' 1 values.length).map (Sql.placeholder dialect)

theorem placeholders_ofPieces (dialect : Dialect) {pieces : List Sql.Piece}
    (h : inert pieces = true) :
    Sql.placeholders false (Statement.ofPieces dialect pieces).sql.toList =
      (List.range' 1 (binds pieces).length).map (Sql.placeholder dialect) := by
  rw [Statement.ofPieces, String.toList_ofList, Sql.placeholders_write dialect h]

/-- Where no text is the caller's own, there is no head. -/
theorem linesUp_of_inert {statement : Dialect → Statement} {pieces : List Sql.Piece}
    (hpieces : ∀ dialect, statement dialect = .ofPieces dialect pieces)
    (h : inert pieces = true) {values : List Bound}
    (hargs : ∀ dialect, (statement dialect).args = values) : LinesUp statement "" values := by
  refine ⟨hargs, fun dialect => ⟨_, String.empty_append.symm, ?_⟩⟩
  have hbinds : binds pieces = values := by
    rw [← hargs dialect, hpieces dialect]
    rfl
  rw [hpieces dialect, placeholders_ofPieces dialect h, hbinds]

/-! ## Fixed texts -/

theorem OrderBy.inert_pieces (order : OrderBy) : inert order.pieces = true := by
  have hentry : ∀ entry : String × SortOrder,
      inert ((ColumnRef.of .qualified entry.1).pieces ++ [.text (" " ++ entry.2.sql)]) = true := by
    intro entry
    cases entry.2 <;> simp [SortOrder.sql, Sql.isInert, Decimal.isDigit]
  cases order with
  | nil => rfl
  | cons entry rest =>
    have hentries := Sql.inert_commaSeparated hentry (entry :: rest)
    rw [OrderBy.pieces, Sql.inert_text, hentries]
    · decide
    · exact List.cons_ne_nil _ _

namespace SelectQuery

theorem inert_groupByPieces (columns : List String) : inert (groupByPieces columns) = true := by
  cases columns with
  | nil => rfl
  | cons column rest =>
    have hcolumns := Sql.inert_commaSeparated
      (fun c => Sql.inert_columnPieces (ColumnRef.of .qualified c)) (column :: rest)
    rw [groupByPieces, Sql.inert_text, hcolumns]
    · decide
    · exact List.cons_ne_nil _ _

theorem inert_tailPieces (q : SelectQuery) : inert q.tailPieces = true := by
  have hlimit : inert (countPieces " LIMIT " q.limit) = true := by cases q.limit <;> rfl
  have hoffset : inert (countPieces " OFFSET " q.offset) = true := by cases q.offset <;> rfl
  simp only [tailPieces, Sql.inert_append, Sql.inert_wherePieces, inert_groupByPieces,
    OrderBy.inert_pieces, hlimit, hoffset]
  rfl

end SelectQuery

namespace UpdateQuery

theorem inert_assignments (assignments : List Assignment) :
    inert (Sql.commaSeparated (assignments.map assignmentPieces)) = true := by
  refine Sql.inert_commaSeparated (fun a => ?_) assignments
  simp [assignmentPieces, Sql.isInert, Decimal.isDigit]

theorem inert_pieces (q : UpdateQuery) : inert q.pieces = true := by
  simp only [pieces, Sql.inert_append, inert_assignments, Sql.inert_wherePieces]
  rfl

theorem binds_assignments (assignments : List Assignment) :
    binds (Sql.commaSeparated (assignments.map assignmentPieces)) =
      assignments.filterMap Assignment.value := by
  simp [assignmentPieces, Sql.commaSeparated, Sql.binds_separated, List.flatMap_map,
    List.filterMap_eq_flatMap_toList]

theorem statement_args (q : UpdateQuery) (dialect : Dialect) :
    (q.statement dialect).args = q.assignments.filterMap Assignment.value ++
      q.conditions.flatMap (fun c => c.atom.test.values) ++ q.extra.flatMap Sql.Group.values := by
  simp [statement, Statement.ofPieces_args, pieces, binds_assignments, Sql.binds_wherePieces,
    CompiledCondition.groups_values]

end UpdateQuery

namespace DeleteQuery

theorem inert_pieces (q : DeleteQuery) : inert q.pieces = true := by
  simp only [pieces, Sql.inert_append, Sql.inert_wherePieces]
  rfl

theorem statement_args (q : DeleteQuery) (dialect : Dialect) :
    (q.statement dialect).args =
      q.conditions.flatMap (fun c => c.atom.test.values) ++ q.extra.flatMap Sql.Group.values := by
  simp [statement, Statement.ofPieces_args, pieces, Sql.binds_wherePieces,
    CompiledCondition.groups_values]

end DeleteQuery

namespace InsertQuery

theorem inert_rowPieces (values : List (Option Bound)) : inert (rowPieces values) = true := by
  have hvalues := Sql.inert_commaSeparated Sql.inert_valuePieces values
  simp [rowPieces, hvalues, Sql.isInert, Decimal.isDigit]

theorem inert_valuesPieces (rows : List (List (Option Bound))) :
    inert (valuesPieces rows) = true := by
  rw [valuesPieces]
  cases rows.filter fun row => !row.isEmpty with
  | nil => rfl
  | cons row rest =>
    have hrows := Sql.inert_commaSeparated inert_rowPieces (row :: rest)
    rw [Sql.inert_text, hrows]
    decide

theorem inert_conflictPieces (columns : List String) (conflict : Option String) :
    inert (conflictPieces columns conflict) = true := by
  cases conflict with
  | none => rfl
  | some target =>
    have hcolumns : inert (Sql.commaSeparated ((columns.filter fun c => c != target).map fun c =>
        [.name c, .text " = ", .name "excluded", .text ".", .name c])) = true :=
      Sql.inert_commaSeparated (fun _ => rfl) _
    rw [conflictPieces]
    split
    · rfl
    · simp [hcolumns, Sql.isInert, Decimal.isDigit]

theorem inert_pieces (q : InsertQuery) : inert q.pieces = true := by
  have hnames := Sql.inert_commaSeparated (fun c : String => (rfl : inert [.name c] = true))
    q.columns
  simp only [pieces, namePieces, Sql.inert_append, hnames, inert_valuesPieces,
    inert_conflictPieces]
  rfl

end InsertQuery

/-! ## Statements -/

namespace SelectQuery

theorem linesUp_statement (q : SelectQuery) : LinesUp q.statement (q.head .sqlite)
    (q.conditions.flatMap (fun c => c.atom.test.values) ++ q.extra.flatMap Sql.Group.values ++
      (q.limit.map Bound.count).toList ++ (q.offset.map Bound.count).toList) := by
  refine ⟨q.statement_args, fun dialect => ⟨(Statement.ofPieces dialect q.tailPieces).sql, ?_, ?_⟩⟩
  · have hhead : binds (.text "SELECT " :: q.columns.pieces) = [] :=
      Selection.binds_pieces q.columns
    have hsame : q.head .sqlite = q.head dialect :=
      congrArg String.ofList (Sql.write_of_binds_eq_nil hhead .sqlite dialect 1 1)
    rw [hsame, statement, pieces, Statement.sql_ofPieces_append_of_binds hhead]
    rfl
  · have hbinds : binds q.tailPieces = (q.statement dialect).args := by
      rw [statement, Statement.ofPieces_args, pieces]
      simp [Selection.binds_pieces]
    rw [placeholders_ofPieces dialect q.inert_tailPieces, hbinds, q.statement_args]

theorem linesUp_countStatement (q : SelectQuery) (idColumn : String) :
    LinesUp (q.countStatement · idColumn) ""
      (q.conditions.flatMap (fun c => c.atom.test.values) ++ q.extra.flatMap Sql.Group.values) := by
  have hinert : inert (q.countingPieces idColumn) = true := by
    simp only [countingPieces, List.cons_append, Sql.inert_text, Sql.inert_append,
      Sql.inert_columnPieces, inert_tailPieces]
    rfl
  have hargs : ∀ dialect, (q.countStatement dialect idColumn).args = _ := fun dialect =>
    (q.countStatement_args dialect idColumn).trans (q.source_args dialect)
  exact linesUp_of_inert (fun _ => rfl) hinert hargs

end SelectQuery

/-- NULL binds nothing, and a test for membership of no values binds two constants. The selection of
a SELECT is written as it stands, all other texts are the renderer's. -/
theorem Statement.values_line_up :
    (∀ q : SelectQuery, LinesUp q.statement (q.head .sqlite)
      (q.conditions.flatMap (fun c => c.atom.test.values) ++ q.extra.flatMap Sql.Group.values ++
        (q.limit.map Bound.count).toList ++ (q.offset.map Bound.count).toList)) ∧
    (∀ (q : SelectQuery) (idColumn : String), LinesUp (q.countStatement · idColumn) ""
      (q.conditions.flatMap (fun c => c.atom.test.values) ++ q.extra.flatMap Sql.Group.values)) ∧
    (∀ q : UpdateQuery, LinesUp q.statement ""
      (q.assignments.filterMap Assignment.value ++
        q.conditions.flatMap (fun c => c.atom.test.values) ++
        q.extra.flatMap Sql.Group.values)) ∧
    (∀ q : DeleteQuery, LinesUp q.statement ""
      (q.conditions.flatMap (fun c => c.atom.test.values) ++ q.extra.flatMap Sql.Group.values)) ∧
    (∀ q : InsertQuery, LinesUp q.statement "" (q.rows.flatMap fun row => row.filterMap id)) ∧
    ∀ negated, (Sql.Test.member negated []).values =
      [.literal 1, .literal (if negated then 1 else 2)] := by
  refine ⟨SelectQuery.linesUp_statement, SelectQuery.linesUp_countStatement, fun q => ?_,
    fun q => ?_, fun q => ?_, fun _ => rfl⟩
  · exact linesUp_of_inert (fun _ => rfl) q.inert_pieces q.statement_args
  · exact linesUp_of_inert (fun _ => rfl) q.inert_pieces q.statement_args
  · exact linesUp_of_inert (fun _ => rfl) q.inert_pieces q.statement_args

end FilterSql

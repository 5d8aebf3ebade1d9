import FilterSql.Proofs.Sql.Erased
import FilterSql.Query.Basic
import FilterSql.Query.Insert

/-!
# FilterSql.Proofs.Query.Erased

Queries with their values erased. Queries that are the same up to values have statements that are
the same up to values, by `Query.statement_erased_congr`, `SelectQuery.countStatement_erased_congr`
and `InsertQuery.statement_erased_congr`.
-/

namespace FilterSql

open Sql (erase)

/-! ## Conditions -/

def NamedParam.erased (p : NamedParam) : NamedParam :=
  { p with values := p.values.map Bound.erased }

def CompiledCondition.erased (c : CompiledCondition) : CompiledCondition :=
  { c with atom := c.atom.erased, params := c.params.map NamedParam.erased }

namespace CompiledCondition

theorem groups_erased (compiled : List CompiledCondition) :
    groups (compiled.map erased) = (groups compiled).map Sql.Group.erased := by
  simp [groups, erased, Sql.Group.erased, Sql.Group.all, Sql.Clause.erased]

theorem references_erased (compiled : List CompiledCondition) (column : String) :
    references (compiled.map erased) column = references compiled column := by
  simp [references, List.any_map, Function.comp_def, erased, base]

theorem erase_wherePieces (compiled : List CompiledCondition) (extra : List Sql.Group) :
    erase (Sql.wherePieces (groups (compiled.map erased) ++ extra.map Sql.Group.erased)) =
      erase (Sql.wherePieces (groups compiled ++ extra)) := by
  rw [groups_erased, ← List.map_append, Sql.erase_wherePieces]

end CompiledCondition

/-! ## Queries -/

/-- Limits are values too: only whether there is one stays. -/
def SelectQuery.erased (q : SelectQuery) : SelectQuery :=
  { q with
    conditions := q.conditions.map CompiledCondition.erased
    extra := q.extra.map Sql.Group.erased
    limit := q.limit.map fun _ => 0
    offset := q.offset.map fun _ => 0 }

namespace SelectQuery

theorem erased_andWhere (q : SelectQuery) (group : Sql.Group) :
    (q.andWhere group).erased = q.erased.andWhere group.erased := by
  simp [erased, andWhere]

theorem erase_countPieces (keyword : String) (n : Option Nat) :
    erase (countPieces keyword (n.map fun _ => 0)) = erase (countPieces keyword n) := by
  cases n <;> rfl

theorem erase_tailPieces (q : SelectQuery) : erase q.erased.tailPieces = erase q.tailPieces := by
  simp only [tailPieces, erased, Sql.erase_append, CompiledCondition.erase_wherePieces,
    erase_countPieces]

theorem erase_pieces (q : SelectQuery) : erase q.erased.pieces = erase q.pieces := by
  simp only [pieces, Sql.erase_text, Sql.erase_append, erase_tailPieces]
  rfl

theorem erase_countingPieces (q : SelectQuery) (idColumn : String) :
    erase (q.erased.countingPieces idColumn) = erase (q.countingPieces idColumn) := by
  have h := erase_tailPieces { q with orderBy := [], limit := none, offset := none }
  simp only [countingPieces, Sql.erase_text, Sql.erase_append]
  rw [← h]
  rfl

theorem statement_erased_congr {q q' : SelectQuery} (h : q.erased = q'.erased)
    (dialect : Dialect) : (q.statement dialect).erased = (q'.statement dialect).erased :=
  Statement.ofPieces_erased_congr (by rw [← erase_pieces, h, erase_pieces])

theorem countStatement_erased_congr {q q' : SelectQuery} (h : q.erased = q'.erased)
    (dialect : Dialect) (idColumn : String) :
    (q.countStatement dialect idColumn).erased = (q'.countStatement dialect idColumn).erased :=
  Statement.ofPieces_erased_congr (by rw [← erase_countingPieces, h, erase_countingPieces])

end SelectQuery

def Assignment.erased (a : Assignment) : Assignment := { a with value := a.value.map Bound.erased }

def UpdateQuery.erased (q : UpdateQuery) : UpdateQuery :=
  { q with
    assignments := q.assignments.map Assignment.erased
    conditions := q.conditions.map CompiledCondition.erased
    extra := q.extra.map Sql.Group.erased }

def DeleteQuery.erased (q : DeleteQuery) : DeleteQuery :=
  { q with
    conditions := q.conditions.map CompiledCondition.erased
    extra := q.extra.map Sql.Group.erased }

theorem DeleteQuery.erased_toUpdate_set (q : DeleteQuery) (column : String)
    (value : Option Bound) : (q.toUpdate.set column value).erased =
      q.erased.toUpdate.set column (value.map Bound.erased) := rfl

theorem Sql.erase_valuePieces (value : Option Bound) :
    erase (valuePieces (value.map Bound.erased)) = erase (valuePieces value) := by
  cases value <;> rfl

theorem UpdateQuery.erase_pieces (q : UpdateQuery) : erase q.erased.pieces = erase q.pieces := by
  have h : ∀ a : Assignment,
      erase (assignmentPieces a.erased) = erase (assignmentPieces a) := by
    intro a
    simp only [assignmentPieces, Assignment.erased, Sql.erase_name, Sql.erase_text,
      Sql.erase_valuePieces]
  simp only [pieces, erased, Sql.erase_append, CompiledCondition.erase_wherePieces,
    Sql.erase_commaSeparated, List.map_map, Function.comp_def, h]

theorem DeleteQuery.erase_pieces (q : DeleteQuery) : erase q.erased.pieces = erase q.pieces := by
  simp only [pieces, erased, Sql.erase_append, CompiledCondition.erase_wherePieces]

def Query.erased : Query → Query
  | .select q => .select q.erased
  | .update q => .update q.erased
  | .delete q => .delete q.erased

namespace Query

theorem statement_erased (q : Query) (dialect : Dialect) :
    (q.erased.statement dialect).erased = (q.statement dialect).erased := by
  cases q with
  | select q => exact Statement.ofPieces_erased_congr q.erase_pieces
  | update q => exact Statement.ofPieces_erased_congr q.erase_pieces
  | delete q => exact Statement.ofPieces_erased_congr q.erase_pieces

theorem statement_erased_congr {q q' : Query} (h : q.erased = q'.erased) (dialect : Dialect) :
    (q.statement dialect).erased = (q'.statement dialect).erased := by
  rw [← statement_erased, h, statement_erased]

theorem cases_of_erased_eq {q q' : Query} (h : q.erased = q'.erased) :
    (∃ s s', q = .select s ∧ q' = .select s' ∧ s.erased = s'.erased) ∨
      (∃ u u', q = .update u ∧ q' = .update u' ∧ u.erased = u'.erased) ∨
      ∃ d d', q = .delete d ∧ q' = .delete d' ∧ d.erased = d'.erased := by
  cases q with
  | select s =>
    cases q' with
    | select s' => exact .inl ⟨s, s', rfl, rfl, select.inj h⟩
    | update _ => cases h
    | delete _ => cases h
  | update u =>
    cases q' with
    | update u' => exact .inr (.inl ⟨u, u', rfl, rfl, update.inj h⟩)
    | select _ => cases h
    | delete _ => cases h
  | delete d =>
    cases q' with
    | delete d' => exact .inr (.inr ⟨d, d', rfl, rfl, delete.inj h⟩)
    | select _ => cases h
    | update _ => cases h

theorem table_erased (q : Query) : q.erased.table = q.table := by cases q <;> rfl

end Query

/-! ## Inserts -/

def InsertQuery.erased (q : InsertQuery) : InsertQuery :=
  { q with rows := q.rows.map (List.map (Option.map Bound.erased)) }

namespace InsertQuery

theorem erase_rowPieces (values : List (Option Bound)) :
    erase (rowPieces (values.map (Option.map Bound.erased))) = erase (rowPieces values) := by
  simp only [rowPieces, List.cons_append, Sql.erase_text, Sql.erase_append,
    Sql.erase_commaSeparated, List.map_map, Function.comp_def, Sql.erase_valuePieces]

theorem erase_valuesPieces (rows : List (List (Option Bound))) :
    erase (valuesPieces (rows.map (List.map (Option.map Bound.erased)))) =
      erase (valuesPieces rows) := by
  have h : (rows.map (List.map (Option.map Bound.erased))).filter (fun row => !row.isEmpty) =
      (rows.filter fun row => !row.isEmpty).map (List.map (Option.map Bound.erased)) := by
    rw [List.filter_map]
    simp [Function.comp_def]
  unfold valuesPieces
  rw [h]
  cases rows.filter fun row => !row.isEmpty with
  | nil => rfl
  | cons row rest =>
    simp only [List.map_cons, Sql.erase_text, Sql.erase_commaSeparated, erase_rowPieces,
      List.map_map, Function.comp_def]

theorem erase_pieces (q : InsertQuery) : erase q.erased.pieces = erase q.pieces := by
  simp only [pieces, erased, Sql.erase_append, erase_valuesPieces]

theorem statement_erased_congr {q q' : InsertQuery} (h : q.erased = q'.erased)
    (dialect : Dialect) : (q.statement dialect).erased = (q'.statement dialect).erased :=
  Statement.ofPieces_erased_congr (by rw [← erase_pieces, h, erase_pieces])

end InsertQuery

end FilterSql

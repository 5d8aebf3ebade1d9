import FilterSql.Proofs.Query.Values
import FilterSql.Proofs.Sql.Precedence
import FilterSql.Query.Basic

/-!
# FilterSql.Proofs.Query.Narrowing

Groups that are added to a query narrow it: the WHERE clause of its statement, read back by the
precedence of SQL, is true of a row exactly when every condition and every group is.

* `Sql.Reader.source`, `Sql.Reader.update`, `Sql.Reader.delete`: the readers of statements.
* `Narrows`: what a clause has to say for some conditions and groups.
* `Query.added_groups_narrow`: the clauses of all three kinds of queries say it.
-/

namespace FilterSql

open Sql (Reader Reads ReadsBefore GoesOn Ends)

/-! ## Readers -/

namespace Sql.Reader

/-- The table of a SELECT and its clause, from FROM on. -/
def source (dialect : Dialect) : Reader (String × Option Predicate) := do
  skip " FROM "
  let table ← name
  skip " AS "
  named mainAlias
  let clause ← whereClause dialect
  return (table, clause)

def assignment (dialect : Dialect) : Reader Assignment := do
  let column ← name
  skip " = "
  let value ← cell dialect
  return ⟨column, value⟩

/-- The table of an UPDATE, what it sets, and its clause. -/
def update (dialect : Dialect) : Reader (String × List Assignment × Option Predicate) := do
  skip "UPDATE "
  let table ← name
  skip " SET "
  let assignments ← orElse (list (assignment dialect)) (return [])
  let clause ← whereClause dialect
  return (table, assignments, clause)

def delete (dialect : Dialect) : Reader (String × Option Predicate) := do
  skip "DELETE FROM "
  let table ← name
  let clause ← whereClause dialect
  return (table, clause)

end Sql.Reader

/-! ## Clauses -/

/-- A clause lets those rows through of which it is true; without a clause all rows pass. -/
def Passes (value : Sql.Atom → Option Bool) (clause : Option Sql.Predicate) : Prop :=
  ∀ p ∈ clause, p.eval value = some true

/-- The clause is true of a row exactly when each condition and each group is. -/
def Narrows (clause : Option Sql.Predicate) (conditions : List CompiledCondition)
    (groups : List Sql.Group) : Prop :=
  ∀ value : Sql.Atom → Option Bool, Passes value clause ↔
    (∀ c ∈ conditions, Sql.decided value c.atom = some true) ∧
      ∀ g ∈ groups, g.holds (fun a => Sql.decided value a = some true) = true

/-- The clause that is read from the statements of a query. -/
def clauseOf (conditions : List CompiledCondition) (extra : List Sql.Group) :
    Option Sql.Predicate :=
  (Sql.Group.joinAll? (CompiledCondition.groups conditions ++ extra)).map
    fun group => group.predicate.settled

theorem narrows_clauseOf (conditions : List CompiledCondition) (extra : List Sql.Group) :
    Narrows (clauseOf conditions extra) conditions extra := by
  intro value
  have hwhere : Passes value (clauseOf conditions extra) ↔
      Sql.whereHolds (fun a => Sql.decided value a = some true)
        (CompiledCondition.groups conditions ++ extra) = true := by
    rw [Passes, clauseOf, Sql.whereHolds]
    cases Sql.Group.joinAll? (CompiledCondition.groups conditions ++ extra) with
    | none => simp
    | some group =>
      rw [Option.map_some, Option.all_some, ← Sql.Predicate.eval_eq_true_iff,
        ← Sql.Predicate.eval_settled]
      simp
  rw [hwhere, Sql.holds_whereClause, List.all_append, Bool.and_eq_true, List.all_eq_true,
    List.all_eq_true]
  simp [CompiledCondition.groups, Sql.Group.all, Sql.Group.holds, Sql.Clause.allHold,
    Sql.Clause.holds]

/-! ## Reading statements -/

variable {dialect : Dialect}

/-- What ends a clause: the text is over, or no further operand follows. -/
def EndsClause : List Char → Prop := Ends [" AND ", " OR ", " WHERE "]

theorem endsClause_nil : EndsClause [] := by
  constructor
  · intro c hc
    cases hc
  · decide

theorem goesOn_wherePieces (groups : List Sql.Group) (n : Nat) {rest : List Char}
    (hr : EndsClause rest) :
    GoesOn Sql.endsTest (Sql.Piece.write dialect n (Sql.wherePieces groups) ++ rest) := by
  rw [Sql.wherePieces]
  cases Sql.Group.joinAll? groups with
  | none => exact hr.1
  | some group => exact Sql.goesOn_text rfl (by decide) _ n rest

theorem reads_clause (conditions : List CompiledCondition) (extra : List Sql.Group) :
    ReadsBefore dialect EndsClause (Reader.whereClause dialect)
      (Sql.wherePieces (CompiledCondition.groups conditions ++ extra))
      (clauseOf conditions extra) :=
  Sql.reads_wherePieces (CompiledCondition.groups conditions ++ extra)

namespace DeleteQuery

theorem foldl_andWhere (added : List Sql.Group) (q : DeleteQuery) :
    added.foldl andWhere q = { q with extra := q.extra ++ added } := by
  induction added generalizing q with
  | nil => rw [List.foldl_nil, List.append_nil]
  | cons group added ih => rw [List.foldl_cons, ih, andWhere, List.append_assoc]; rfl

theorem whole?_statement (q : DeleteQuery) (dialect : Dialect) :
    (Reader.delete dialect).whole? (q.statement dialect) =
      some (q.table, clauseOf q.conditions q.extra) := by
  have hclause : ReadsBefore dialect EndsClause
      (do let clause ← Reader.whereClause dialect; return (q.table, clause))
      (Sql.wherePieces (CompiledCondition.groups q.conditions ++ q.extra))
      (q.table, clauseOf q.conditions q.extra) :=
    (reads_clause q.conditions q.extra).map _
  have htable : ReadsBefore dialect EndsClause
      (do let table ← Reader.name; let clause ← Reader.whereClause dialect; return (table, clause))
      (.name q.table :: Sql.wherePieces (CompiledCondition.groups q.conditions ++ q.extra))
      (q.table, clauseOf q.conditions q.extra) :=
    ReadsBefore.bind (Sql.reads_name q.table) hclause fun n rest hr c hc =>
      Sql.isPlain_of_endsTest (goesOn_wherePieces _ n hr c hc)
  exact (htable.skip "DELETE FROM ").whole? endsClause_nil

end DeleteQuery

namespace UpdateQuery

theorem foldl_andWhere (added : List Sql.Group) (q : UpdateQuery) :
    added.foldl andWhere q = { q with extra := q.extra ++ added } := by
  induction added generalizing q with
  | nil => rw [List.foldl_nil, List.append_nil]
  | cons group added ih => rw [List.foldl_cons, ih, andWhere, List.append_assoc]; rfl

theorem foldl_set (assignments : List Assignment) (q : UpdateQuery) :
    assignments.foldl (fun q a => q.set a.column a.value) q =
      { q with assignments := q.assignments ++ assignments } := by
  induction assignments generalizing q with
  | nil => rw [List.foldl_nil, List.append_nil]
  | cons a assignments ih => rw [List.foldl_cons, ih, set, List.append_assoc]; rfl

/-- An assignment as it is written, without the alias of a table. -/
def written (a : Assignment) : Assignment := ⟨baseColumn a.column, a.value⟩

def writtenPieces (a : Assignment) : List Sql.Piece :=
  .name a.column :: .text " = " :: Sql.valuePieces a.value

theorem reads_assignment (a : Assignment) :
    Reads dialect Sql.isPlain (Reader.assignment dialect) (writtenPieces a) a := by
  have hvalue : Reads dialect Sql.isPlain
      (do let value ← Reader.cell dialect; return (⟨a.column, value⟩ : Assignment))
      (Sql.valuePieces a.value) a := (Sql.reads_cell a.value).map (Assignment.mk a.column)
  exact (Sql.reads_name a.column).bind_skip (c := ' ') rfl (by decide) hvalue

theorem reads_assignments (assignments : List Assignment) :
    Reads dialect Sql.endsTest (.orElse (.list (Reader.assignment dialect)) (return []))
      (Sql.commaSeparated (assignments.map assignmentPieces)) (assignments.map written) := by
  have hpieces :
      assignments.map assignmentPieces = (assignments.map written).map writtenPieces := by
    rw [List.map_map]
    rfl
  rw [hpieces]
  by_cases hnil : assignments.map written = []
  · -- Nothing is set, so that the clause follows at once.
    rw [hnil]
    intro n rest values hr
    have hhead : rest.head? ≠ some '"' := by
      intro heq
      exact absurd (hr '"' heq) (by decide)
    have hlist : Reader.list (Reader.assignment dialect) ⟨rest, n, values⟩ = none :=
      Reader.bind_of_none (Reader.bind_of_none (Sql.name_of_head_ne hhead n values))
    exact Reader.orElse_of_none hlist
  · have hlist : Reads dialect Sql.endsList (.list (Reader.assignment dialect))
        (Sql.commaSeparated ((assignments.map written).map writtenPieces))
        (assignments.map written) := Sql.reads_list (fun a _ => reads_assignment a) hnil
    exact (hlist.mono fun _ => Sql.endsList_of_endsTest).orElse

theorem whole?_statement (q : UpdateQuery) (dialect : Dialect) :
    (Reader.update dialect).whole? (q.statement dialect) =
      some (q.table, q.assignments.map written, clauseOf q.conditions q.extra) := by
  have hclause : ReadsBefore dialect EndsClause
      (do
        let clause ← Reader.whereClause dialect
        return (q.table, q.assignments.map written, clause))
      (Sql.wherePieces (CompiledCondition.groups q.conditions ++ q.extra))
      (q.table, q.assignments.map written, clauseOf q.conditions q.extra) :=
    (reads_clause q.conditions q.extra).map _
  have hset : ReadsBefore dialect EndsClause
      (do
        let assignments ← .orElse (.list (Reader.assignment dialect)) (return [])
        let clause ← Reader.whereClause dialect
        return (q.table, assignments, clause))
      (Sql.commaSeparated (q.assignments.map assignmentPieces) ++
        Sql.wherePieces (CompiledCondition.groups q.conditions ++ q.extra))
      (q.table, q.assignments.map written, clauseOf q.conditions q.extra) :=
    ReadsBefore.bind (reads_assignments q.assignments) hclause fun n _ hr =>
      goesOn_wherePieces _ n hr
  have htable : ReadsBefore dialect EndsClause
      (do
        let table ← Reader.name
        Reader.skip " SET "
        let assignments ← .orElse (.list (Reader.assignment dialect)) (return [])
        let clause ← Reader.whereClause dialect
        return (table, assignments, clause))
      (.name q.table :: .text " SET " :: (Sql.commaSeparated (q.assignments.map assignmentPieces) ++
        Sql.wherePieces (CompiledCondition.groups q.conditions ++ q.extra)))
      (q.table, q.assignments.map written, clauseOf q.conditions q.extra) :=
    ReadsBefore.bind (Sql.reads_name q.table) (hset.skip " SET ") fun n rest _ =>
      Sql.goesOn_text rfl (by decide) _ n rest
  exact (htable.skip "UPDATE ").whole? endsClause_nil

end UpdateQuery

namespace SelectQuery

theorem foldl_andWhere (added : List Sql.Group) (q : SelectQuery) :
    added.foldl andWhere q = { q with extra := q.extra ++ added } := by
  induction added generalizing q with
  | nil => rw [List.foldl_nil, List.append_nil]
  | cons group added ih => rw [List.foldl_cons, ih, andWhere, List.append_assoc]; rfl

theorem reads_source (q : SelectQuery) :
    ReadsBefore dialect EndsClause (Reader.source dialect) q.sourcePieces
      (q.table, clauseOf q.conditions q.extra) := by
  have hclause : ReadsBefore dialect EndsClause
      (do let clause ← Reader.whereClause dialect; return (q.table, clause))
      (Sql.wherePieces (CompiledCondition.groups q.conditions ++ q.extra))
      (q.table, clauseOf q.conditions q.extra) :=
    (reads_clause q.conditions q.extra).map _
  have halias : ReadsBefore dialect EndsClause
      (do
        Reader.named mainAlias
        let clause ← Reader.whereClause dialect
        return (q.table, clause))
      (.name mainAlias :: Sql.wherePieces (CompiledCondition.groups q.conditions ++ q.extra))
      (q.table, clauseOf q.conditions q.extra) :=
    ReadsBefore.bind (Sql.reads_named mainAlias) hclause fun n rest hr c hc =>
      Sql.isPlain_of_endsTest (goesOn_wherePieces _ n hr c hc)
  have htable : ReadsBefore dialect EndsClause
      (do
        let table ← Reader.name
        Reader.skip " AS "
        Reader.named mainAlias
        let clause ← Reader.whereClause dialect
        return (table, clause))
      (.name q.table :: .text " AS " :: .name mainAlias ::
        Sql.wherePieces (CompiledCondition.groups q.conditions ++ q.extra))
      (q.table, clauseOf q.conditions q.extra) :=
    ReadsBefore.bind (Sql.reads_name q.table) (halias.skip " AS ") fun n rest _ =>
      Sql.goesOn_text rfl (by decide) _ n rest
  exact htable.skip " FROM "

theorem endsClause_tail (q : SelectQuery) (n : Nat) :
    EndsClause (q.tail dialect n).toList := by
  have hkeywords : ∀ keyword ∈ [" GROUP BY ", " ORDER BY ", " LIMIT ", " OFFSET "],
      keyword.toList.head? = some ' ' ∧
        [" AND ", " OR ", " WHERE "].all (Sql.incomparable · keyword) = true := by decide
  have htext : ∀ keyword ∈ [" GROUP BY ", " ORDER BY ", " LIMIT ", " OFFSET "],
      ∀ more : List Sql.Piece, EndsClause (Sql.Piece.write dialect n (.text keyword :: more)) := by
    intro keyword hkeyword more
    obtain ⟨hhead, hfree⟩ := hkeywords keyword hkeyword
    have hends : EndsClause (Sql.Piece.write dialect n (.text keyword :: more) ++ []) :=
      Sql.ends_text hhead (by decide) hfree more n []
    rwa [List.append_nil] at hends
  rw [tail, String.toList_ofList]
  cases hgroup : q.groupBy with
  | cons column columns => exact htext " GROUP BY " (by simp) _
  | nil =>
    cases horder : q.orderBy with
    | cons entry entries => exact htext " ORDER BY " (by simp) _
    | nil =>
      cases hlimit : q.limit with
      | some limit => exact htext " LIMIT " (by simp) _
      | none =>
        cases hoffset : q.offset with
        | some offset => exact htext " OFFSET " (by simp) _
        | none => exact endsClause_nil

/-- Behind the selection the source is read, and then the tail is left with the limits. -/
theorem source_statement (q : SelectQuery) (dialect : Dialect) :
    ∃ rest, (q.statement dialect).sql = q.head dialect ++ rest ∧
      Reader.source dialect ⟨rest.toList, 1, (q.statement dialect).args⟩ =
        some ((q.table, clauseOf q.conditions q.extra),
          ⟨(q.tail dialect ((q.source dialect).args.length + 1)).toList,
            (q.source dialect).args.length + 1,
            (q.limit.map Bound.count).toList ++ (q.offset.map Bound.count).toList⟩) := by
  refine ⟨_, (q.statement_sql dialect).trans (String.append_assoc ..), ?_⟩
  have hread : ReadsBefore dialect EndsClause (Reader.source dialect) q.sourcePieces _ :=
    q.reads_source
  have hends : EndsClause (q.tail dialect ((q.source dialect).args.length + 1)).toList :=
    q.endsClause_tail _
  have hargs : (q.statement dialect).args = Sql.binds q.sourcePieces ++
      ((q.limit.map Bound.count).toList ++ (q.offset.map Bound.count).toList) := by
    have hsource : Sql.binds q.sourcePieces = _ := q.source_args dialect
    rw [hsource, q.statement_args, List.append_assoc, List.append_assoc]
  have hsql : (q.source dialect).sql.toList = Sql.Piece.write dialect 1 q.sourcePieces :=
    String.toList_ofList
  have hsource : (q.source dialect).args = Sql.binds q.sourcePieces := rfl
  rw [String.toList_append, hsql, hargs, hsource, hread 1 _ _ (hsource ▸ hends), Nat.add_comm 1]

end SelectQuery

/-! ## Narrowing -/

/-- Of the statement of a SELECT the text behind the selection is read, up to grouping, ordering and
limits; those of an UPDATE and a DELETE are read whole. An update that a DELETE is turned into has
the clause of the DELETE, whatever it sets. -/
theorem Query.added_groups_narrow (dialect : Dialect) (added : List Sql.Group) :
    (∀ q : SelectQuery, ∃ rest clause n,
      ((added.foldl .andWhere q).statement dialect).sql = q.head dialect ++ rest ∧
      Reader.source dialect ⟨rest.toList, 1, ((added.foldl .andWhere q).statement dialect).args⟩ =
        some ((q.table, clause), ⟨(q.tail dialect n).toList, n,
          (q.limit.map Bound.count).toList ++ (q.offset.map Bound.count).toList⟩) ∧
      Narrows clause q.conditions (q.extra ++ added)) ∧
    (∀ q : UpdateQuery, ∃ clause,
      (Reader.update dialect).whole? ((added.foldl .andWhere q).statement dialect) =
        some (q.table, q.assignments.map UpdateQuery.written, clause) ∧
      Narrows clause q.conditions (q.extra ++ added)) ∧
    ∀ q : DeleteQuery, ∃ clause,
      (Reader.delete dialect).whole? ((added.foldl .andWhere q).statement dialect) =
        some (q.table, clause) ∧
      Narrows clause q.conditions (q.extra ++ added) ∧
      ∀ assignments : List Assignment,
        (Reader.update dialect).whole? ((assignments.foldl (fun u a => u.set a.column a.value)
          (added.foldl .andWhere q).toUpdate).statement dialect) =
            some (q.table, assignments.map UpdateQuery.written, clause) := by
  refine ⟨fun q => ?_, fun q => ?_, fun q => ?_⟩
  · rw [SelectQuery.foldl_andWhere]
    obtain ⟨rest, hsql, hread⟩ :=
      SelectQuery.source_statement { q with extra := q.extra ++ added } dialect
    exact ⟨rest, _, _, hsql, hread, narrows_clauseOf _ _⟩
  · rw [UpdateQuery.foldl_andWhere]
    exact ⟨_, UpdateQuery.whole?_statement _ dialect, narrows_clauseOf _ _⟩
  · rw [DeleteQuery.foldl_andWhere]
    refine ⟨_, DeleteQuery.whole?_statement _ dialect, narrows_clauseOf _ _, ?_⟩
    intro assignments
    rw [UpdateQuery.foldl_set]
    exact UpdateQuery.whole?_statement _ dialect

end FilterSql

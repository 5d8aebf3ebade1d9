import FilterSql.Proofs.Query.Narrowing
import FilterSql.Proofs.Text.Trimming

/-!
# FilterSql.Proofs.Query.Selecting

The statements of SELECT queries read back whole. What a query shows may be any expressions, as they
stand, so the text in front of FROM is given to the reader; all that follows it is read.

* `Sql.Reader.select`, `Sql.Reader.counting`: the readers of a SELECT and of one that counts rows.
* `Sql.Led`: parts of a statement that are led by a keyword, each of which may be left out.
* `SelectQuery.whole?_statement`: a statement is read as table, clause, grouping, ordering, limit
  and offset of its query.
* `SelectQuery.whole?_countStatement`: the statement that counts has the clause alone.
-/

namespace FilterSql

open Sql (Reader Reads ReadsBefore GoesOn Ends)

/-- The name that a reference is split from. -/
def ColumnRef.joined : ColumnRef → String
  | ⟨some qualifier, name⟩ => qualifier ++ "." ++ name
  | ⟨none, name⟩ => name

theorem ColumnRef.joined_of (column : String) :
    (ColumnRef.of .qualified column).joined = column := by
  unfold of
  split
  case h_1 qualifier name hcut _ =>
    obtain ⟨c, hc, hcolumn, -⟩ := Text.cutFirst?_eq_some hcut
    obtain rfl : c = '.' := by simpa using hc
    rw [joined, ← String.toList_inj, hcolumn]
    simp
  case h_2 heq => cases heq
  case h_3 => rfl

namespace Sql

/-! ## Readers -/

/-- A SELECT, apart from what it shows. -/
structure SelectParts where
  table : String
  clause : Option Predicate
  groupBy : List String
  orderBy : OrderBy
  limit : Option Nat
  offset : Option Nat

/-- A SELECT that counts the rows which have a value in a column. -/
structure CountParts where
  column : String
  /-- The name of the count in the result. -/
  name : String
  table : String
  clause : Option Predicate

namespace Reader

/-- A column by the name that a caller gives it. -/
def columnName : Reader String := do
  let c ← column
  return c.joined

def direction : Reader SortOrder :=
  choose [(" ASC", return .asc), (" DESC", return .desc)]

def ordered : Reader (String × SortOrder) := do
  let column ← columnName
  let order ← direction
  return (column, order)

def rowCount (dialect : Dialect) : Reader (Option Nat) := fun unread =>
  match bound dialect unread with
  | some (.count n, unread) => some (some n, unread)
  | _ => none

/-- What a keyword leads, or else what stands for its absence. -/
def part {α : Type} (keyword : String) (next : Reader α) (absent : α) : Reader α :=
  orElse (do skip keyword; next) (return absent)

/-- What follows the source of a SELECT. -/
def behindSource (dialect : Dialect) (table : String) (clause : Option Predicate) :
    Reader SelectParts := do
  let groupBy ← part " GROUP BY " (list columnName) []
  let orderBy ← part " ORDER BY " (list ordered) []
  let limit ← part " LIMIT " (rowCount dialect) none
  let offset ← part " OFFSET " (rowCount dialect) none
  return ⟨table, clause, groupBy, orderBy, limit, offset⟩

/-- The parts of a SELECT that begins with the given text. -/
def select (dialect : Dialect) (head : String) : Reader SelectParts := do
  skip head
  let source ← source dialect
  behindSource dialect source.1 source.2

def counting (dialect : Dialect) : Reader CountParts := do
  skip "SELECT COUNT("
  let column ← columnName
  skip ") AS "
  let name ← name
  let source ← source dialect
  return ⟨column, name, source.1, source.2⟩

end Reader

/-! ## Parts that a keyword leads -/

variable {dialect : Dialect} {α : Type}

/-- Either the part is left out, or the keyword stands in front of it. -/
def Led (keyword : String) (pieces : List Piece) : Prop :=
  pieces = [] ∨ ∃ more, pieces = .text keyword :: more

/-- A keyword with a blank in front that cannot be taken for any of some others. -/
def isApart (keywords : List String) (keyword : String) : Bool :=
  keyword.toList.head? == some ' ' && keywords.all (incomparable · keyword)

theorem ends_nil {keywords : List String} (h : ∀ keyword ∈ keywords, keyword.toList ≠ []) :
    Ends keywords [] :=
  ⟨fun c hc => (by cases hc), fun keyword hk hp => h keyword hk (List.prefix_nil.1 hp)⟩

/-- Parts that other keywords lead do not begin with a keyword, nor does what follows them. -/
theorem ends_led {keywords : List String} {parts : List (String × List Piece)}
    (h : ∀ part ∈ parts, Led part.1 part.2 ∧ isApart keywords part.1 = true) {rest : List Char}
    (hr : Ends keywords rest) (n : Nat) :
    Ends keywords (Piece.write dialect n (parts.flatMap Prod.snd) ++ rest) := by
  induction parts with
  | nil => exact hr
  | cons part parts ih =>
    obtain ⟨⟨hled, hapart⟩, hparts⟩ := List.forall_mem_cons.1 h
    obtain ⟨hblank, hfree⟩ := Bool.and_eq_true_iff.1 hapart
    rw [List.flatMap_cons]
    rcases hled with hnil | ⟨more, hmore⟩
    · rw [hnil]
      exact ih hparts
    · rw [hmore]
      exact ends_text (eq_of_beq hblank) (by decide) hfree _ n rest

theorem reads_part {keyword : String} {next : Reader α} {absent a : α} {pieces more : List Piece}
    (hpieces : pieces = .text keyword :: more)
    (h : ReadsBefore dialect (Ends [keyword]) next more a) :
    ReadsBefore dialect (Ends [keyword]) (Reader.part keyword next absent) pieces a := by
  intro n rest values hr
  rw [hpieces]
  exact Reader.orElse_of_some (h.skip keyword n rest values hr)

theorem reads_absent (keyword : String) (next : Reader α) (absent : α) :
    ReadsBefore dialect (Ends [keyword]) (Reader.part keyword next absent) [] absent := by
  intro n rest values hr
  have hskip := skip_of_not_prefix (hr.2 keyword (by simp)) n values
  exact Reader.orElse_of_none (Reader.bind_of_none hskip)

theorem reads_columnName (column : String) : Reads dialect endsColumn Reader.columnName
    (ColumnRef.of .qualified column).pieces column := by
  have h : Reads dialect endsColumn Reader.columnName (ColumnRef.of .qualified column).pieces
      (ColumnRef.of .qualified column).joined := (reads_column _).map ColumnRef.joined
  rwa [ColumnRef.joined_of] at h

theorem reads_direction (order : SortOrder) :
    ReadsBefore dialect (fun _ => True) Reader.direction [.text (" " ++ order.sql)] order := by
  have hmem : (" " ++ order.sql, (return order : Reader SortOrder)) ∈
      [(" ASC", return .asc), (" DESC", return .desc)] := by
    cases order with
    | asc => exact .head _
    | desc => exact .tail _ (.head _)
  exact reads_choose hmem (by decide) fun _ _ _ _ => rfl

def orderedPieces (entry : String × SortOrder) : List Piece :=
  (ColumnRef.of .qualified entry.1).pieces ++ [.text (" " ++ entry.2.sql)]

theorem reads_ordered (entry : String × SortOrder) :
    Reads dialect isPlain Reader.ordered (orderedPieces entry) entry := by
  have horder : ReadsBefore dialect (GoesOn isPlain)
      (do let order ← Reader.direction; return (entry.1, order)) [.text (" " ++ entry.2.sql)]
      entry := fun n rest values _ =>
    (reads_direction entry.2).map (Prod.mk entry.1) n rest values trivial
  refine (reads_columnName entry.1).bind horder fun n rest _ => ?_
  exact goesOn_text (c := ' ') (by cases entry.2 <;> rfl) (by decide) [] n rest

end Sql

/-! ## Statements -/

namespace SelectQuery

variable {dialect : Dialect}

theorem led_groupBy (columns : List String) : Sql.Led " GROUP BY " (groupByPieces columns) := by
  cases columns with
  | nil => exact .inl rfl
  | cons column rest => exact .inr ⟨_, rfl⟩

theorem led_orderBy (order : OrderBy) : Sql.Led " ORDER BY " order.pieces := by
  cases order with
  | nil => exact .inl rfl
  | cons entry rest => exact .inr ⟨_, rfl⟩

theorem led_count (keyword : String) (n : Option Nat) :
    Sql.Led keyword (countPieces keyword n) := by
  cases n with
  | none => exact .inl rfl
  | some n => exact .inr ⟨_, rfl⟩

theorem reads_groupBy (columns : List String) :
    ReadsBefore dialect (Ends [" GROUP BY "])
      (Reader.part " GROUP BY " (Reader.list Reader.columnName) []) (groupByPieces columns)
      columns := by
  cases columns with
  | nil => exact Sql.reads_absent _ _ _
  | cons column rest =>
    have hlist : Reads dialect (Sql.endsItems Sql.endsColumn) (Reader.list Reader.columnName)
        (Sql.commaSeparated ((column :: rest).map fun c => (ColumnRef.of .qualified c).pieces))
        (column :: rest) :=
      Sql.reads_items rfl (fun c _ => Sql.reads_columnName c) (List.cons_ne_nil _ _)
    refine Sql.reads_part rfl fun n rest values hr => hlist n rest values fun c hc => ?_
    exact Sql.endsItems_endsColumn_of_endsTest (hr.1 c hc)

theorem reads_orderBy (order : OrderBy) :
    ReadsBefore dialect (Ends [" ORDER BY "])
      (Reader.part " ORDER BY " (Reader.list Reader.ordered) []) order.pieces order := by
  cases order with
  | nil => exact Sql.reads_absent _ _ _
  | cons entry rest =>
    have hlist : Reads dialect Sql.endsList (Reader.list Reader.ordered)
        (Sql.commaSeparated ((entry :: rest).map Sql.orderedPieces)) (entry :: rest) :=
      Sql.reads_list (fun entry _ => Sql.reads_ordered entry) (List.cons_ne_nil _ _)
    refine Sql.reads_part rfl fun n rest values hr => hlist n rest values fun c hc => ?_
    exact Sql.endsList_of_endsTest (hr.1 c hc)

theorem reads_count (keyword : String) (count : Option Nat) :
    ReadsBefore dialect (Ends [keyword]) (Reader.part keyword (Reader.rowCount dialect) none)
      (countPieces keyword count) count := by
  cases count with
  | none => exact Sql.reads_absent _ _ _
  | some count =>
    refine Sql.reads_part rfl fun n rest values hr => ?_
    have hbound := @Sql.reads_bound dialect (.count count) n rest values fun c hc =>
      Sql.isPlain_of_endsTest (hr.1 c hc)
    rw [Reader.rowCount, hbound]

/-- The parts that follow the clause, each with the keyword that leads it. -/
def ledParts (q : SelectQuery) : List (String × List Sql.Piece) :=
  [(" GROUP BY ", groupByPieces q.groupBy), (" ORDER BY ", q.orderBy.pieces),
    (" LIMIT ", countPieces " LIMIT " q.limit), (" OFFSET ", countPieces " OFFSET " q.offset)]

def ledPieces (q : SelectQuery) (k : Nat) : List Sql.Piece := (q.ledParts.drop k).flatMap Prod.snd

theorem led_of_mem_ledParts (q : SelectQuery) : ∀ part ∈ q.ledParts, Sql.Led part.1 part.2 := by
  simp only [ledParts, List.forall_mem_cons]
  exact ⟨led_groupBy _, led_orderBy _, led_count _ _, led_count _ _, by simp⟩

/-- Behind the first `k` parts the statement does not begin with keywords apart from the rest. -/
theorem ends_ledPieces (q : SelectQuery) {keywords : List String} (k : Nat)
    (h : keywords.all (·.toList ≠ []) = true)
    (hapart : ([" GROUP BY ", " ORDER BY ", " LIMIT ", " OFFSET "].drop k).all
      (Sql.isApart keywords) = true) (n : Nat) {rest : List Char} (hr : rest = []) :
    Ends keywords (Sql.Piece.write dialect n (q.ledPieces k) ++ rest) := by
  subst hr
  refine Sql.ends_led (fun part hpart => ⟨?_, ?_⟩) (Sql.ends_nil ?_) n
  · exact q.led_of_mem_ledParts part (List.mem_of_mem_drop hpart)
  · have hmem : part.1 ∈ (q.ledParts.drop k).map Prod.fst := List.mem_map_of_mem hpart
    rw [List.map_drop] at hmem
    exact List.all_eq_true.1 hapart part.1 hmem
  · exact fun keyword hkeyword => of_decide_eq_true (List.all_eq_true.1 h keyword hkeyword)

def parts (q : SelectQuery) : Sql.SelectParts :=
  ⟨q.table, clauseOf q.conditions q.extra, q.groupBy, q.orderBy, q.limit, q.offset⟩

theorem reads_ledPieces (q : SelectQuery) (clause : Option Sql.Predicate) :
    ReadsBefore dialect (· = []) (Reader.behindSource dialect q.table clause) (q.ledPieces 0)
      ⟨q.table, clause, q.groupBy, q.orderBy, q.limit, q.offset⟩ := by
  have hends {keywords : List String} (k : Nat) := @ends_ledPieces dialect q keywords k
  refine ReadsBefore.bind (reads_groupBy q.groupBy) ?_ fun n _ => hends 1 (by decide) (by decide) n
  refine ReadsBefore.bind (reads_orderBy q.orderBy) ?_ fun n _ => hends 2 (by decide) (by decide) n
  refine ReadsBefore.bind (reads_count " LIMIT " q.limit) ?_ fun n _ =>
    hends 3 (by decide) (by decide) n
  exact ReadsBefore.bind (reads_count " OFFSET " q.offset) (fun _ _ _ _ => rfl) fun n _ =>
    hends 4 (by decide) (by decide) n

theorem pieces_eq (q : SelectQuery) :
    q.pieces = (.text "SELECT " :: q.columns.pieces) ++ (q.sourcePieces ++ q.ledPieces 0) := by
  simp [pieces, tailPieces, sourcePieces, ledPieces, ledParts]

/-- The statement of a query, read behind what it shows, says what the query says. -/
theorem whole?_statement (q : SelectQuery) (dialect : Dialect) :
    (Reader.select dialect (q.head dialect)).whole? (q.statement dialect) = some q.parts := by
  have hrest : ReadsBefore dialect (· = [])
      (do
        let source ← Reader.source dialect
        Reader.behindSource dialect source.1 source.2)
      (q.sourcePieces ++ q.ledPieces 0) q.parts :=
    ReadsBefore.bind q.reads_source (q.reads_ledPieces _) fun n _ =>
      q.ends_ledPieces 0 (by decide) (by decide) n
  have hread := hrest 1 [] [] rfl
  rw [List.append_nil, List.append_nil] at hread
  have hhead : Sql.binds (.text "SELECT " :: q.columns.pieces) = [] :=
    Selection.binds_pieces q.columns
  have hargs : (q.statement dialect).args = Sql.binds (q.sourcePieces ++ q.ledPieces 0) := by
    rw [statement, Statement.ofPieces_args, pieces_eq, Sql.binds_append, hhead, List.nil_append]
  have hsql : (q.statement dialect).sql.toList = (q.head dialect).toList ++
      Sql.Piece.write dialect 1 (q.sourcePieces ++ q.ledPieces 0) := by
    rw [statement, pieces_eq, Statement.sql_ofPieces_append_of_binds hhead, String.toList_append]
    exact congrArg _ String.toList_ofList
  have hskip := Sql.skip_append (q.head dialect)
    (Sql.Piece.write dialect 1 (q.sourcePieces ++ q.ledPieces 0)) 1 (q.statement dialect).args
  rw [Reader.whole?, Sql.Unread.ofStatement, hsql, Reader.select, Reader.bind_of_some hskip, hargs,
    hread]

/-! ## Counting -/

theorem reads_counting (q : SelectQuery) (idColumn : String) :
    ReadsBefore dialect EndsClause (Reader.counting dialect)
      (countHeadPieces idColumn ++ q.sourcePieces)
      ⟨qualify idColumn, countColumn, q.table, clauseOf q.conditions q.extra⟩ := by
  have hsource : ReadsBefore dialect EndsClause
      (do
        let source ← Reader.source dialect
        return (⟨qualify idColumn, countColumn, source.1, source.2⟩ : Sql.CountParts))
      q.sourcePieces ⟨qualify idColumn, countColumn, q.table, clauseOf q.conditions q.extra⟩ :=
    q.reads_source.map fun source =>
      (⟨qualify idColumn, countColumn, source.1, source.2⟩ : Sql.CountParts)
  have hname : ReadsBefore dialect EndsClause
      (do
        let name ← Reader.name
        let source ← Reader.source dialect
        return (⟨qualify idColumn, name, source.1, source.2⟩ : Sql.CountParts))
      (.name countColumn :: q.sourcePieces)
      ⟨qualify idColumn, countColumn, q.table, clauseOf q.conditions q.extra⟩ :=
    ReadsBefore.bind (Sql.reads_name countColumn) hsource fun n rest _ =>
      Sql.goesOn_text rfl (by decide) _ n rest
  have hcolumn : ReadsBefore dialect EndsClause
      (do
        let column ← Reader.columnName
        Reader.skip ") AS "
        let name ← Reader.name
        let source ← Reader.source dialect
        return (⟨column, name, source.1, source.2⟩ : Sql.CountParts))
      ((ColumnRef.of .qualified (qualify idColumn)).pieces ++
        (.text ") AS " :: .name countColumn :: q.sourcePieces))
      ⟨qualify idColumn, countColumn, q.table, clauseOf q.conditions q.extra⟩ :=
    ReadsBefore.bind (Sql.reads_columnName (qualify idColumn)) (hname.skip ") AS ") fun n rest _ =>
      Sql.goesOn_text rfl (by decide) _ n rest
  have hpieces : countHeadPieces idColumn ++ q.sourcePieces = .text "SELECT COUNT(" ::
      ((ColumnRef.of .qualified (qualify idColumn)).pieces ++
        (.text ") AS " :: .name countColumn :: q.sourcePieces)) := by
    simp [countHeadPieces]
  rw [hpieces]
  exact hcolumn.skip "SELECT COUNT("

/-- The statement that counts the rows of a query has the clause of the query, and no limits. -/
theorem whole?_countStatement {q : SelectQuery} (h : q.isGrouped = false) (dialect : Dialect)
    (idColumn : String) :
    (Reader.counting dialect).whole? (q.countStatement dialect idColumn) =
      some ⟨qualify idColumn, countColumn, q.table, clauseOf q.conditions q.extra⟩ := by
  rw [countStatement, countingPieces_eq h]
  exact (q.reads_counting idColumn).whole? endsClause_nil

end SelectQuery
end FilterSql

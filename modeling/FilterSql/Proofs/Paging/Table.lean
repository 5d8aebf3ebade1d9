import FilterSql.Proofs.Paging.Cursor
import FilterSql.Proofs.Query.Selecting
import Mathlib.Data.List.Forall2
import Mathlib.Data.List.Pairwise
import Mathlib.Order.Lattice

/-!
# FilterSql.Proofs.Paging.Table

A table that does not change, the order of its records, and what a database may answer about them:
what it is asked is read from the text and the values of the statement that it gets.

* `Table.precedes`: the order that a list of columns and directions gives.
* `Table.Answers`, `Table.Counts`: the answers to a SELECT, and to one that counts.
* `Table.Sortable`: orderings whose pages can be told apart by their cursors.
* `Table.holds_seekGroup`: the rows after the cursor of a record are those that it precedes.
-/

namespace FilterSql

open Sql (Reader)

def Sql.Comparison.compares {α : Type} [LinearOrder α] : Sql.Comparison → α → α → Bool
  | .eq, x, y => x = y
  | .ne, x, y => x ≠ y
  | .lt, x, y => x < y
  | .le, x, y => x ≤ y
  | .gt, x, y => y < x
  | .ge, x, y => y ≤ x

/-- Records of some kind, as a query sees them. -/
structure Table (ρ : Type) (K : String → Type) where
  name : String
  records : List ρ
  row : ρ → Row
  /-- Which tests are true of a record. -/
  truth : ρ → Sql.Atom → Bool
  /-- Nothing is among no values. -/
  truth_member : ∀ r column negated, truth r ⟨column, .member negated []⟩ = negated
  /-- The place of a record in the order of a column. -/
  key : ρ → (column : String) → K column

namespace Table

variable {ρ : Type} {K : String → Type} {T : Table ρ K}

/-! ## What a query selects -/

/-- The records for which the filter of a query and the groups added to it are true. -/
def matching (T : Table ρ K) (q : SelectQuery) : List ρ :=
  T.records.filter fun r =>
    Sql.whereHolds (T.truth r) (CompiledCondition.groups q.conditions ++ q.extra)

theorem mem_records_of_matching {q : SelectQuery} {r : ρ} (h : r ∈ T.matching q) :
    r ∈ T.records :=
  (List.mem_filter.1 h).1

theorem matching_andWhere (q : SelectQuery) (group : Sql.Group) :
    T.matching (q.andWhere group) = (T.matching q).filter fun r => group.holds (T.truth r) := by
  simp only [matching, SelectQuery.andWhere, Sql.holds_whereClause, List.filter_filter]
  congr 1
  funext r
  rw [← List.append_assoc, List.all_append, Bool.and_comm]
  simp

/-- The records of which the clause of a statement is true. -/
def passing (T : Table ρ K) (clause : Option Sql.Predicate) : List ρ :=
  T.records.filter fun r => clause.all (·.holds (T.truth r))

/-- The clause that is read from the statement of a query lets the records of the query through. -/
theorem passing_clauseOf (q : SelectQuery) :
    T.passing (clauseOf q.conditions q.extra) = T.matching q := by
  refine List.filter_congr fun r _ => ?_
  rw [clauseOf, Option.all_map, Sql.whereHolds]
  congr 1
  funext group
  exact group.predicate.holds_settled (T.truth_member r)

def window (limit offset : Option Nat) (records : List ρ) : List ρ :=
  match limit with
  | some limit => (records.drop (offset.getD 0)).take limit
  | none => records.drop (offset.getD 0)

/-- Whether a row may be the first of the answer to a statement. If that counts the records by their
ids, which are never NULL, then the number of those of which its clause is true stands under the
name that it gives. -/
def Counts (T : Table ρ K) (dialect : Dialect) (idColumn : String) (statement : Statement)
    (row : Row) : Prop :=
  ∀ parts, (Reader.counting dialect).whole? statement = some parts → parts.table = T.name →
    parts.column = qualify idColumn →
      Fields.get? row parts.name = some (.ofNat (T.passing parts.clause).length)

theorem counts_countStatement_iff {q : SelectQuery} (h : q.isGrouped = false)
    (hname : q.table = T.name) (dialect : Dialect) (idColumn : String) (row : Row) :
    T.Counts dialect idColumn (q.countStatement dialect idColumn) row ↔
      Fields.get? row countColumn = some (.ofNat (T.matching q).length) := by
  rw [Counts, SelectQuery.whole?_countStatement h dialect idColumn]
  simp only [Option.some.injEq, forall_eq', passing_clauseOf, hname, forall_const]

/-- A record has a value in a column, and `value` is its bound form. -/
def Binds (T : Table ρ K) (r : ρ) (column : String) (value : Bound) : Prop :=
  ∃ v, Fields.get? (T.row r) (baseColumn column) = some v ∧ v.BoundAs value

/-! ## Records apart from their order -/

variable {ordering : OrderBy} {idColumn : String}

/-- No two records have the same id. -/
def Unique (T : Table ρ K) (ordering : OrderBy) (idColumn : String) : Prop :=
  ∀ entry ∈ ordering, baseColumn entry.1 = baseColumn idColumn →
    T.records.Pairwise fun a b => T.key a entry.1 ≠ T.key b entry.1

theorem Unique.nodup (h : T.Unique ordering idColumn)
    (hid : baseColumn idColumn ∈ SeekCursor.names ordering) : T.records.Nodup := by
  obtain ⟨entry, hentry, hbase⟩ := List.mem_map.1 hid
  exact (h entry hentry hbase).imp fun hkey heq => hkey (by rw [heq])

/-- The values of the cursor of a record are those of the record. -/
theorem binds_of_bounds {r : ρ} {c : SeekCursor} {values : List Bound}
    (hc : SeekCursor.ofRow (T.row r) (SeekCursor.names ordering) = .ok c)
    (hvalues : c.bounds (SeekCursor.names ordering) = .ok values) :
    List.Forall₂ (fun entry value => T.Binds r entry.1 value) ordering values := by
  have hforall := SeekCursor.bounds_eq_ok_iff.1 hvalues
  have hnames : ∀ name ∈ SeekCursor.names ordering, name ∈ SeekCursor.names ordering :=
    fun _ hname => hname
  have hboth := (List.forall₂_and_left _ _).2 ⟨hnames, hforall⟩
  refine (List.forall₂_map_left_iff.1 hboth).imp ?_
  rintro entry value ⟨hname, v, hv, hvalue⟩
  rw [SeekCursor.get?_ofRow hc hname] at hv
  exact ⟨v, hv, hvalue⟩

/-- The group for some values leaves the records that come after them. -/
theorem matching_seekGroup (q : SelectQuery) (values : List Bound) :
    T.matching (q.andWhere (SeekCursor.seekGroup ordering values)) =
      (T.matching q).filter fun r => SeekCursor.comesAfter (T.truth r) (ordering.zip values) := by
  simp only [matching_andWhere, SeekCursor.holds_seekGroup]

variable [∀ column, LinearOrder (K column)]

/-! ## The order of the records -/

def isBefore {α : Type} [LinearOrder α] : SortOrder → α → α → Bool
  | .asc, x, y => x < y
  | .desc, x, y => y < x

/-- Whether a record comes first in the first column in which the two differ. -/
def precedes (T : Table ρ K) : OrderBy → ρ → ρ → Bool
  | [], _, _ => false
  | (column, order) :: rest, a, b =>
    isBefore order (T.key a column) (T.key b column) ||
      (decide (T.key a column = T.key b column) && T.precedes rest a b)

theorem isBefore_irrefl {α : Type} [LinearOrder α] (order : SortOrder) (x : α) :
    isBefore order x x = false := by
  cases order <;> simp [isBefore]

theorem isBefore_trans {α : Type} [LinearOrder α] {order : SortOrder} {x y z : α}
    (hxy : isBefore order x y = true) (hyz : isBefore order y z = true) :
    isBefore order x z = true := by
  cases order with
  | asc =>
    simp only [isBefore, decide_eq_true_eq] at *
    exact lt_trans hxy hyz
  | desc =>
    simp only [isBefore, decide_eq_true_eq] at *
    exact lt_trans hyz hxy

theorem isBefore_or_eq {α : Type} [LinearOrder α] (order : SortOrder) (x y : α) :
    isBefore order x y = true ∨ x = y ∨ isBefore order y x = true := by
  rcases lt_trichotomy x y with h | h | h
  · cases order with
    | asc => exact .inl (by simpa [isBefore] using h)
    | desc => exact .inr (.inr (by simpa [isBefore] using h))
  · exact .inr (.inl h)
  · cases order with
    | asc => exact .inr (.inr (by simpa [isBefore] using h))
    | desc => exact .inl (by simpa [isBefore] using h)

theorem precedes_cons {column : String} {order : SortOrder} {rest : OrderBy} {a b : ρ} :
    T.precedes ((column, order) :: rest) a b = true ↔
      isBefore order (T.key a column) (T.key b column) = true ∨
        T.key a column = T.key b column ∧ T.precedes rest a b = true := by
  simp [precedes]

theorem precedes_irrefl (ordering : OrderBy) (a : ρ) : T.precedes ordering a a = false := by
  induction ordering with
  | nil => rfl
  | cons entry rest ih => simp [precedes, isBefore_irrefl, ih]

theorem precedes_trans {ordering : OrderBy} {a b c : ρ} (hab : T.precedes ordering a b = true)
    (hbc : T.precedes ordering b c = true) : T.precedes ordering a c = true := by
  induction ordering with
  | nil => cases hab
  | cons entry rest ih =>
    obtain ⟨column, order⟩ := entry
    rw [precedes_cons] at *
    rcases hab with hab | ⟨eab, hab⟩
    · rcases hbc with hbc | ⟨ebc, -⟩
      · exact .inl (isBefore_trans hab hbc)
      · exact .inl (by rwa [← ebc])
    · rcases hbc with hbc | ⟨ebc, hbc⟩
      · exact .inl (by rwa [eab])
      · exact .inr ⟨eab.trans ebc, ih hab hbc⟩

theorem precedes_asymm {ordering : OrderBy} {a b : ρ} (hab : T.precedes ordering a b = true) :
    T.precedes ordering b a = false := by
  by_contra hba
  have haa := precedes_trans hab (by simpa using hba)
  rw [precedes_irrefl] at haa
  cases haa

theorem precedes_total {ordering : OrderBy} (a b : ρ) :
    T.precedes ordering b a = false ∨ T.precedes ordering a b = false := by
  cases hba : T.precedes ordering b a with
  | false => exact .inl rfl
  | true => exact .inr (precedes_asymm hba)

theorem key_eq_of_not_precedes {ordering : OrderBy} {a b : ρ}
    (hab : T.precedes ordering a b = false) (hba : T.precedes ordering b a = false) :
    ∀ entry ∈ ordering, T.key a entry.1 = T.key b entry.1 := by
  induction ordering with
  | nil => simp
  | cons entry rest ih =>
    obtain ⟨column, order⟩ := entry
    have hkey : T.key a column = T.key b column := by
      rcases isBefore_or_eq order (T.key a column) (T.key b column) with h | h | h
      · rw [precedes, h] at hab; cases hab
      · exact h
      · rw [precedes, h] at hba; cases hba
    rw [List.forall_mem_cons]
    refine ⟨hkey, ih ?_ ?_⟩
    · simpa [precedes, hkey, isBefore_irrefl] using hab
    · simpa [precedes, hkey, isBefore_irrefl] using hba

theorem precedes_congr_right {ordering : OrderBy} {a b : ρ}
    (h : ∀ entry ∈ ordering, T.key a entry.1 = T.key b entry.1) (c : ρ) :
    T.precedes ordering c a = T.precedes ordering c b := by
  induction ordering with
  | nil => rfl
  | cons entry rest ih =>
    rw [List.forall_mem_cons] at h
    rw [precedes, precedes, h.1, ih h.2]

/-- Records of which none precedes the one before it are in order. -/
theorem not_precedes_trans {ordering : OrderBy} {a b c : ρ} (hcb : T.precedes ordering c b = false)
    (hba : T.precedes ordering b a = false) : T.precedes ordering c a = false := by
  cases hab : T.precedes ordering a b with
  | true =>
    by_contra hca
    rw [precedes_trans (by simpa using hca) hab] at hcb
    cases hcb
  | false => rw [precedes_congr_right (key_eq_of_not_precedes hab hba) c, hcb]

/-! ## Answers -/

/-- What a SELECT asks for: the records of which its clause is true, in an order in which none
stands behind one that it precedes by ORDER BY, as far as OFFSET and LIMIT let them through. -/
def IsResult (T : Table ρ K) (parts : Sql.SelectParts) (rows : List Row) : Prop :=
  ∃ records : List ρ, records.Perm (T.passing parts.clause) ∧
    records.Pairwise (fun a b => T.precedes parts.orderBy b a = false) ∧
    rows = (window parts.limit parts.offset records).map T.row

/-- Whether rows may be the answer to a statement. If that begins with the given text, and its rest
is read as a SELECT from the table that does not group, then they are what it asks for. -/
def Answers (T : Table ρ K) (dialect : Dialect) (head : String) (statement : Statement)
    (rows : List Row) : Prop :=
  ∀ parts, (Reader.select dialect head).whole? statement = some parts → parts.table = T.name →
    parts.groupBy = [] → T.IsResult parts rows

/-- What is asked by the statement of a query is what the query says. -/
theorem answers_statement_iff {q : SelectQuery} (hname : q.table = T.name) (hgroup : q.groupBy = [])
    (dialect : Dialect) (rows : List Row) :
    T.Answers dialect (q.head dialect) (q.statement dialect) rows ↔ T.IsResult q.parts rows := by
  rw [Answers, q.whole?_statement dialect]
  constructor
  · intro h
    exact h _ rfl hname hgroup
  · rintro h _ hparts - -
    cases hparts
    exact h

/-! ## Orderings that tell the records apart -/

structure Sortable (T : Table ρ K) (ordering : OrderBy) (idColumn : String) : Prop where
  /-- The columns have names of their own without their aliases. -/
  distinct : (SeekCursor.names ordering).Nodup
  /-- No two records have the same id. -/
  unique : ∀ entry ∈ ordering, baseColumn entry.1 = baseColumn idColumn →
    T.records.Pairwise fun a b => T.key a entry.1 ≠ T.key b entry.1
  /-- Every row shows a value in each column, none of them NULL, and all of them can be bound. -/
  bindable : ∀ r ∈ T.records, ∀ entry ∈ ordering, ∃ value, T.Binds r entry.1 value
  /-- The cursor of a row is read back from its text. -/
  readsBack : ∀ r ∈ T.records, ∀ c : SeekCursor,
    SeekCursor.ofRow (T.row r) (SeekCursor.names ordering) = .ok c →
    SeekCursor.parse c.token = .ok c
  /-- The database compares a column with the value of a record as the order of the column says. -/
  compares : ∀ r ∈ T.records, ∀ a ∈ T.records, ∀ entry ∈ ordering, ∀ value : Bound,
    T.Binds a entry.1 value → ∀ op : Sql.Comparison,
    T.truth r (SeekCursor.columnTest op entry.1 value) =
      op.compares (T.key r entry.1) (T.key a entry.1)

theorem Sortable.isUnique (h : T.Sortable ordering idColumn) : T.Unique ordering idColumn :=
  h.unique

theorem Unique.eq_of_not_precedes (h : T.Unique ordering idColumn)
    (hid : baseColumn idColumn ∈ SeekCursor.names ordering) {a b : ρ} (ha : a ∈ T.records)
    (hb : b ∈ T.records) (hab : T.precedes ordering a b = false)
    (hba : T.precedes ordering b a = false) : a = b := by
  -- The id is one of the columns, and two records differ in it.
  obtain ⟨entry, hentry, hbase⟩ := List.mem_map.1 hid
  have hsymm : Std.Symm fun a b => T.key a entry.1 ≠ T.key b entry.1 := ⟨fun _ _ hne => hne.symm⟩
  by_contra hne
  exact (h entry hentry hbase).forall ha hb hne (key_eq_of_not_precedes hab hba entry hentry)

theorem Unique.eq_of_perm (h : T.Unique ordering idColumn)
    (hid : baseColumn idColumn ∈ SeekCursor.names ordering) {l₁ l₂ : List ρ}
    (hsub : ∀ r ∈ l₂, r ∈ T.records) (hperm : l₁.Perm l₂)
    (h₁ : l₁.Pairwise fun a b => T.precedes ordering b a = false)
    (h₂ : l₂.Pairwise fun a b => T.precedes ordering b a = false) : l₁ = l₂ := by
  refine hperm.eq_of_pairwise ?_ h₁ h₂
  intro a b ha hb hba hab
  exact h.eq_of_not_precedes hid (hsub a (hperm.mem_iff.1 ha)) (hsub b hb) hab hba

theorem Unique.pairwise_precedes (h : T.Unique ordering idColumn)
    (hid : baseColumn idColumn ∈ SeekCursor.names ordering) {l : List ρ}
    (hsub : ∀ r ∈ l, r ∈ T.records) (hnodup : l.Nodup)
    (hl : l.Pairwise fun a b => T.precedes ordering b a = false) :
    l.Pairwise fun a b => T.precedes ordering a b = true := by
  have hboth := hl.and hnodup
  refine hboth.imp_of_mem ?_
  intro a b ha hb hab
  by_contra hnot
  exact hab.2 (h.eq_of_not_precedes hid (hsub a ha) (hsub b hb) (by simpa using hnot) hab.1)

theorem Unique.eq_of_isResult (h : T.Unique ordering idColumn)
    (hid : baseColumn idColumn ∈ SeekCursor.names ordering) {q : SelectQuery} {rows : List Row}
    {l : List ρ} (hq : q.orderBy = ordering) (hrows : T.IsResult q.parts rows)
    (hperm : l.Perm (T.matching q))
    (hl : l.Pairwise fun a b => T.precedes ordering a b = true) :
    rows = (window q.limit q.offset l).map T.row := by
  subst hq
  obtain ⟨records, hrecords, hsorted, rfl⟩ := hrows
  have hmatching : records.Perm (T.matching q) := passing_clauseOf q ▸ hrecords
  have heq : records = l := by
    refine h.eq_of_perm hid ?_ (hmatching.trans hperm.symm) hsorted (hl.imp precedes_asymm)
    exact fun r hr => mem_records_of_matching (hperm.mem_iff.1 hr)
  rw [heq]
  rfl

/-! ## Cursors of records -/

theorem Sortable.exists_cursor (h : T.Sortable ordering idColumn) {r : ρ} (hr : r ∈ T.records) :
    ∃ c values, SeekCursor.ofRow (T.row r) (SeekCursor.names ordering) = .ok c ∧
      SeekCursor.parse c.token = .ok c ∧
      c.after ordering = .ok (SeekCursor.seekGroup ordering values) ∧
      List.Forall₂ (fun entry value => T.Binds r entry.1 value) ordering values := by
  have hshows : SeekCursor.Shows (T.row r) (SeekCursor.names ordering) := by
    intro name hname
    obtain ⟨entry, hentry, rfl⟩ := List.mem_map.1 hname
    obtain ⟨value, v, hv, hvalue⟩ := h.bindable r hr entry hentry
    exact ⟨v, hv, hvalue.isNull_eq_false⟩
  have hofRow := SeekCursor.ofRow_eq_ok_iff.2 ⟨hshows, rfl⟩
  -- As the names are distinct, the cursor has as many fields as the ordering has columns.
  have hlist : Fields.ofList (SeekCursor.shown (T.row r) (SeekCursor.names ordering)) =
      SeekCursor.shown (T.row r) (SeekCursor.names ordering) := by
    apply Fields.ofList_of_nodup
    rw [SeekCursor.map_fst_shown]
    exact h.distinct
  have hbound : ∀ name ∈ SeekCursor.names ordering, ∃ v,
      SeekCursor.get? ⟨Fields.ofList (SeekCursor.shown (T.row r) (SeekCursor.names ordering))⟩
        name = some v ∧ v.isBindable = true := by
    intro name hname
    rw [SeekCursor.get?_ofRow hofRow hname]
    obtain ⟨entry, hentry, rfl⟩ := List.mem_map.1 hname
    obtain ⟨value, v, hv, hvalue⟩ := h.bindable r hr entry hentry
    exact ⟨v, hv, Json.isBindable_iff.2 ⟨value, hvalue⟩⟩
  obtain ⟨values, hvalues⟩ := SeekCursor.bounds_isOk_iff.2 hbound
  refine ⟨_, values, hofRow, h.readsBack r hr _ hofRow,
    SeekCursor.after_eq_ok_iff.2 ⟨SeekCursor.fits_iff.2 ⟨?_, ?_⟩, values, hvalues, rfl⟩,
    binds_of_bounds hofRow hvalues⟩
  · rw [SeekCursor.size, hlist, SeekCursor.shown, List.length_map, SeekCursor.length_names]
  · intro name hname
    obtain ⟨v, hv, -⟩ := hbound name hname
    rw [hv]
    rfl

theorem Sortable.comesAfter_eq (h : T.Sortable ordering idColumn) {a r : ρ} {values : List Bound}
    (ha : a ∈ T.records) (hr : r ∈ T.records)
    (hv : List.Forall₂ (fun entry value => T.Binds a entry.1 value) ordering values) :
    SeekCursor.comesAfter (T.truth r) (ordering.zip values) = T.precedes ordering a r := by
  -- The induction cuts the ordering down, of which `h` speaks as a whole.
  have hcompares := h.compares r hr a ha
  clear h
  induction hv with
  | nil => rfl
  | @cons entry value rest more hvalue _ ih =>
    obtain ⟨column, order⟩ := entry
    have hfirst := hcompares (column, order) (by simp) value hvalue
    have hrest := ih fun entry hentry => hcompares entry (by simp [hentry])
    rw [List.zip_cons_cons, SeekCursor.comesAfter, precedes, hfirst, hfirst, hrest]
    cases order <;> simp [SeekCursor.later, Sql.Comparison.compares, isBefore, eq_comm]

/-! ## Records after a record -/

/-- Of the records that match, the group for the values of one leaves those that it precedes. -/
theorem Sortable.matching_after (h : T.Sortable ordering idColumn) (q : SelectQuery) {a : ρ}
    {values : List Bound} (ha : a ∈ T.records)
    (hv : List.Forall₂ (fun entry value => T.Binds a entry.1 value) ordering values) :
    T.matching (q.andWhere (SeekCursor.seekGroup ordering values)) =
      (T.matching q).filter (T.precedes ordering a) := by
  rw [matching_seekGroup]
  apply List.filter_congr
  intro r hr
  rw [h.comesAfter_eq ha (mem_records_of_matching hr) hv]

theorem filter_precedes {before rest : List ρ} {a : ρ}
    (h : (before ++ a :: rest).Pairwise fun a b => T.precedes ordering a b = true) :
    (before ++ a :: rest).filter (T.precedes ordering a) = rest := by
  obtain ⟨-, htail, hcross⟩ := List.pairwise_append.1 h
  have hbefore : before.filter (T.precedes ordering a) = [] := by
    rw [List.filter_eq_nil_iff]
    intro b hb
    rw [precedes_asymm (hcross b hb a (by simp))]
    decide
  have hrest : rest.filter (T.precedes ordering a) = rest := by
    rw [List.filter_eq_self]
    exact (List.pairwise_cons.1 htail).1
  rw [List.filter_append, List.filter_cons, precedes_irrefl, hbefore, hrest]
  rfl

end Table
end FilterSql

import FilterSql.Proofs.Paging.Walking

/-!
# FilterSql.Proofs.Paging.Nulls

A walk through the pages of a table with NULLs in the columns of the ordering. The database puts
NULLs first or last, but no comparison with NULL is true, so a record that comes behind a cursor
only by its NULL is on no page behind it.

* `Table.Nullable`: what is assumed of the table.
* `Table.reaches`, `Table.skips`: the records that a cursor finds, and those it passes over.
* `SeekWalk.next_of_facing`: a step. `SeekWalk.walks_of_facing`: all the steps to come.
* `SeekWalk.walks_missing_iff`: a walk that ends without an error misses exactly the records that
  one of its cursors passes over; with NULLs first there are none.
* `Table.walks_loses_null`: with NULLs last a walk ends without an error and without the last row.
-/

namespace FilterSql

namespace Table

variable {ρ : Type} {K : String → Type} [∀ column, LinearOrder (K column)]
variable {T : Table ρ K} {null : ρ → String → Bool} {ordering : OrderBy} {idColumn : String}

/-! ## Records behind a cursor -/

/-- Whether comparisons tell that a record comes behind another. -/
def reaches (T : Table ρ K) (null : ρ → String → Bool) : OrderBy → ρ → ρ → Bool
  | [], _, _ => false
  | (column, order) :: rest, a, b =>
    !null b column &&
      (isBefore order (T.key a column) (T.key b column) ||
        (decide (T.key a column = T.key b column) && T.reaches null rest a b))

/-- Whether a record comes behind another by a NULL in the first column in which the two differ. -/
def skips (T : Table ρ K) (null : ρ → String → Bool) : OrderBy → ρ → ρ → Bool
  | [], _, _ => false
  | (column, order) :: rest, a, b =>
    if null b column then isBefore order (T.key a column) (T.key b column)
    else decide (T.key a column = T.key b column) && T.skips null rest a b

/-- A table with NULLs where `null` says so. Ids are unique, as are the names of the columns. -/
structure Nullable (T : Table ρ K) (null : ρ → String → Bool) (ordering : OrderBy)
    (idColumn : String) : Prop where
  distinct : (SeekCursor.names ordering).Nodup
  unique : T.Unique ordering idColumn
  /-- What a row shows in a column is NULL where `null` says so. -/
  shows : ∀ r ∈ T.records, ∀ entry ∈ ordering, ∀ v,
    Fields.get? (T.row r) (baseColumn entry.1) = some v → v.isNull = null r entry.1
  /-- The cursor of a row is read back from its text. -/
  readsBack : ∀ r ∈ T.records, ∀ c : SeekCursor,
    SeekCursor.ofRow (T.row r) (SeekCursor.names ordering) = .ok c →
    SeekCursor.parse c.token = .ok c
  /-- In the order of a column all NULLs stand on one side of the values. -/
  placed : ∀ entry ∈ ordering,
    (∀ n ∈ T.records, ∀ r ∈ T.records, null n entry.1 = true → null r entry.1 = false →
      T.key n entry.1 < T.key r entry.1) ∨
    ∀ n ∈ T.records, ∀ r ∈ T.records, null n entry.1 = true → null r entry.1 = false →
      T.key r entry.1 < T.key n entry.1
  /-- No comparison with NULL is true; values are compared as the order of the column says. -/
  compares : ∀ r ∈ T.records, ∀ a ∈ T.records, ∀ entry ∈ ordering, ∀ value : Bound,
    T.Binds a entry.1 value → ∀ op : Sql.Comparison,
    T.truth r (SeekCursor.columnTest op entry.1 value) =
      (!null r entry.1 && op.compares (T.key r entry.1) (T.key a entry.1))

/-- In each column NULLs come before the values, in the direction of the column. -/
def NullsFirst (T : Table ρ K) (null : ρ → String → Bool) (ordering : OrderBy) : Prop :=
  ∀ entry ∈ ordering, ∀ n ∈ T.records, ∀ r ∈ T.records, null n entry.1 = true →
    null r entry.1 = false → isBefore entry.2 (T.key n entry.1) (T.key r entry.1) = true

theorem reaches_trans {a b c : ρ} (hab : T.reaches null ordering a b = true)
    (hbc : T.reaches null ordering b c = true) : T.reaches null ordering a c = true := by
  induction ordering with
  | nil => cases hab
  | cons entry rest ih =>
    simp only [reaches, Bool.and_eq_true, Bool.or_eq_true, decide_eq_true_eq] at *
    obtain ⟨-, hab⟩ := hab
    obtain ⟨hc, hbc⟩ := hbc
    refine ⟨hc, ?_⟩
    rcases hab with hab | ⟨eab, hab⟩
    · rcases hbc with hbc | ⟨ebc, -⟩
      · exact .inl (isBefore_trans hab hbc)
      · exact .inl (by rwa [← ebc])
    · rcases hbc with hbc | ⟨ebc, hbc⟩
      · exact .inl (by rwa [eab])
      · exact .inr ⟨eab.trans ebc, ih hab hbc⟩

theorem precedes_of_reaches {a b : ρ} (h : T.reaches null ordering a b = true) :
    T.precedes ordering a b = true := by
  induction ordering with
  | nil => cases h
  | cons entry rest ih =>
    simp only [reaches, Bool.and_eq_true, Bool.or_eq_true, decide_eq_true_eq] at h
    exact precedes_cons.2 (h.2.imp_right fun hrest => ⟨hrest.1, ih hrest.2⟩)

theorem precedes_of_skips {a b : ρ} (h : T.skips null ordering a b = true) :
    T.precedes ordering a b = true := by
  induction ordering with
  | nil => cases h
  | cons entry rest ih =>
    rw [skips] at h
    refine precedes_cons.2 ?_
    split at h
    · exact .inl h
    · simp only [Bool.and_eq_true, decide_eq_true_eq] at h
      exact .inr ⟨h.1, ih h.2⟩

/-- What comes behind a record without NULLs is either found from it or passed over. -/
theorem Nullable.skips_iff (h : T.Nullable null ordering idColumn) {a b : ρ} (ha : a ∈ T.records)
    (hb : b ∈ T.records) (hvalues : ∀ entry ∈ ordering, null a entry.1 = false) :
    T.skips null ordering a b = true ↔
      T.precedes ordering a b = true ∧ T.reaches null ordering a b = false := by
  have hplaced := h.placed
  -- The induction cuts the ordering down, of which `h` speaks as a whole.
  clear h
  induction ordering with
  | nil => simp [skips, precedes]
  | cons entry rest ih =>
    rw [List.forall_mem_cons] at hvalues hplaced
    have hrest := ih hvalues.2 hplaced.2
    rw [precedes_cons]
    cases hn : null b entry.1 with
    | true =>
      have hne : T.key a entry.1 ≠ T.key b entry.1 := by
        rcases hplaced.1 with hlow | hhigh
        · exact (hlow b hb a ha hn hvalues.1).ne'
        · exact (hhigh b hb a ha hn hvalues.1).ne
      simp [skips, reaches, hn, hne]
    | false =>
      by_cases heq : T.key a entry.1 = T.key b entry.1
      · simpa [skips, reaches, hn, heq, isBefore_irrefl] using hrest
      · simp [skips, reaches, hn, heq]

theorem NullsFirst.skips_eq_false (h : T.NullsFirst null ordering) {a b : ρ} (ha : a ∈ T.records)
    (hb : b ∈ T.records) (hvalues : ∀ entry ∈ ordering, null a entry.1 = false) :
    T.skips null ordering a b = false := by
  induction ordering with
  | nil => rfl
  | cons entry rest ih =>
    unfold NullsFirst at h
    rw [List.forall_mem_cons] at h hvalues
    cases hn : null b entry.1 with
    | true =>
      have hback := h.1 b hb a ha hn hvalues.1
      have hfront : isBefore entry.2 (T.key a entry.1) (T.key b entry.1) = false := by
        by_contra hnot
        have hirrefl := isBefore_trans hback (by simpa using hnot)
        rw [isBefore_irrefl] at hirrefl
        cases hirrefl
      simp [skips, hn, hfront]
    | false => simp [skips, hn, ih h.2 hvalues.2]

theorem filter_reaches {front more : List ρ} {a : ρ}
    (h : (front ++ a :: more).Pairwise fun a b => T.precedes ordering a b = true) :
    (front ++ a :: more).filter (T.reaches null ordering a) =
      more.filter (T.reaches null ordering a) := by
  conv_rhs => rw [← filter_precedes h, List.filter_filter]
  apply List.filter_congr
  intro r _
  cases hr : T.reaches null ordering a r with
  | true => rw [precedes_of_reaches hr]; rfl
  | false => rfl

/-! ## Cursors -/

/-- A record that has a cursor has no NULLs. -/
theorem Nullable.null_eq_false (h : T.Nullable null ordering idColumn) {a : ρ}
    (ha : a ∈ T.records) {c : SeekCursor}
    (hc : SeekCursor.ofRow (T.row a) (SeekCursor.names ordering) = .ok c) :
    ∀ entry ∈ ordering, null a entry.1 = false := by
  intro entry hentry
  obtain ⟨v, hv, hn⟩ := (SeekCursor.ofRow_eq_ok_iff.1 hc).1 _ (List.mem_map_of_mem hentry)
  rw [← h.shows a ha entry hentry v hv, hn]

theorem Nullable.comesAfter_eq (h : T.Nullable null ordering idColumn) {a r : ρ}
    {values : List Bound} (ha : a ∈ T.records) (hr : r ∈ T.records)
    (hv : List.Forall₂ (fun entry value => T.Binds a entry.1 value) ordering values) :
    SeekCursor.comesAfter (T.truth r) (ordering.zip values) = T.reaches null ordering a r := by
  have hcompares := h.compares r hr a ha
  clear h
  induction hv with
  | nil => rfl
  | @cons entry value rest more hvalue _ ih =>
    obtain ⟨column, order⟩ := entry
    have hfirst := hcompares (column, order) (by simp) value hvalue
    have hrest := ih fun entry hentry => hcompares entry (by simp [hentry])
    rw [List.zip_cons_cons, SeekCursor.comesAfter, reaches, hfirst, hfirst, hrest]
    cases hn : null r column <;> cases order <;>
      simp [SeekCursor.later, Sql.Comparison.compares, isBefore, eq_comm]

/-- The page behind the cursor of a record is taken from the records that it reaches. -/
theorem Nullable.matching_request (h : T.Nullable null ordering idColumn) {p : SeekPages}
    {page : SelectQuery} (hp : p.ordering = ordering) {a : ρ} (ha : a ∈ T.records) {c : SeekCursor}
    (hc : SeekCursor.ofRow (T.row a) (SeekCursor.names ordering) = .ok c)
    (hpage : p.pageQuery (some c) = .ok page) :
    page.orderBy = p.paged.query.orderBy ∧ page.limit = some p.paged.pageSize ∧
      page.offset = none ∧
      T.matching page = (T.matching p.paged.query).filter (T.reaches null ordering a) := by
  rw [SeekPages.pageQuery, hp] at hpage
  cases hafter : c.after ordering with
  | error e => simp [hafter] at hpage
  | ok group =>
    simp only [hafter, Except.ok.injEq] at hpage
    subst hpage
    obtain ⟨-, values, hvalues, rfl⟩ := SeekCursor.after_eq_ok_iff.1 hafter
    refine ⟨rfl, rfl, rfl, ?_⟩
    rw [matching_seekGroup]
    apply List.filter_congr
    intro r hr
    exact h.comesAfter_eq ha (mem_records_of_matching hr) (binds_of_bounds hc hvalues)

/-- What is missing of some records, up to the last of which `a` all are returned, when of those
behind it only such are that `a` reaches. -/
theorem Nullable.missing_step (h : T.Nullable null ordering idColumn) {front more : List ρ} {a : ρ}
    (hsub : ∀ r ∈ front ++ a :: more, r ∈ T.records)
    (hsorted : (front ++ a :: more).Pairwise fun a b => T.precedes ordering a b = true)
    (hvalues : ∀ entry ∈ ordering, null a entry.1 = false) {returned cursors : List ρ}
    (hreturned : returned.Sublist (more.filter (T.reaches null ordering a)))
    (hcursors : ∀ b ∈ cursors, b ∈ returned)
    (hmissing : ∀ r ∈ more.filter (T.reaches null ordering a),
      r ∉ returned ↔ ∃ b ∈ cursors, T.skips null ordering b r = true) :
    ∀ r ∈ front ++ a :: more, r ∉ front ++ a :: returned ↔
      ∃ b ∈ a :: cursors, T.skips null ordering b r = true := by
  intro r hr
  obtain ⟨-, htail, hcross⟩ := List.pairwise_append.1 hsorted
  have hbehind := (List.pairwise_cons.1 htail).1
  have hmore : ∀ b ∈ returned, b ∈ more := fun b hb => List.mem_of_mem_filter (hreturned.subset hb)
  have ha : a ∈ T.records := hsub a (by simp)
  -- A record up to `a` is behind no cursor, and one behind `a` is on no page up to it.
  have hupTo : ∀ b ∈ a :: cursors, r ∈ front ∨ r = a → T.skips null ordering b r = false := by
    intro b hb hplace
    by_contra hskip
    have hbr := precedes_of_skips (by simpa using hskip)
    have hrb : b = r ∨ T.precedes ordering r b = true := by
      rcases List.mem_cons.1 hb with rfl | hb
      · rcases hplace with hfront | rfl
        · exact .inr (hcross r hfront _ (by simp))
        · exact .inl rfl
      · have hbm := hmore b (hcursors b hb)
        rcases hplace with hfront | rfl
        · exact .inr (hcross r hfront b (by simp [hbm]))
        · exact .inr (hbehind b hbm)
    rcases hrb with rfl | hrb
    · rw [precedes_irrefl] at hbr; cases hbr
    · rw [precedes_asymm hbr] at hrb; cases hrb
  by_cases hplace : r ∈ front ∨ r = a
  · have hin : r ∈ front ++ a :: returned := by
      rcases hplace with hfront | rfl
      · exact List.mem_append_left _ hfront
      · simp
    refine ⟨fun hnot => absurd hin hnot, ?_⟩
    rintro ⟨b, hb, hskip⟩
    rw [hupTo b hb hplace] at hskip
    cases hskip
  · have hr' : r ∈ more := by
      rcases List.mem_append.1 hr with hfront | htail
      · exact absurd (.inl hfront) hplace
      · exact (List.mem_cons.1 htail).resolve_left fun heq => hplace (.inr heq)
    have hout : r ∉ front ++ a :: returned ↔ r ∉ returned := by
      rw [not_or] at hplace
      simp [hplace.1, hplace.2]
    have hskips := h.skips_iff ha (hsub r hr) hvalues
    rw [hbehind r hr'] at hskips
    rw [hout]
    cases hreach : T.reaches null ordering a r with
    | true =>
      have hnot : T.skips null ordering a r = false := by simpa [hreach] using hskips
      rw [hmissing r (List.mem_filter.2 ⟨hr', hreach⟩)]
      simp [hnot]
    | false =>
      have hskip : T.skips null ordering a r = true := hskips.2 ⟨rfl, hreach⟩
      refine ⟨fun _ => ⟨a, by simp, hskip⟩, fun _ hin => ?_⟩
      have hreached := (List.mem_filter.1 (hreturned.subset hin)).2
      rw [hreach] at hreached
      cases hreached

end Table

/-! ## Walks -/

namespace SeekWalk

variable {σ ρ : Type} {K : String → Type} [∀ column, LinearOrder (K column)]
variable {T : Table ρ K} {null : ρ → String → Bool} {db : Database σ} {q : SelectQuery}
variable {pageSize : Nat} {idColumn : String}

/-- Where a walk stands whose next page is taken from some records. -/
structure Facing (T : Table ρ K) (null : ρ → String → Bool) (db : Database σ) (q : SelectQuery)
    (pageSize : Nat) (rest : List ρ) (walk : SeekWalk) : Prop where
  reads : walk.pages.Reads q pageSize
  counted : walk.pages.paged.resultCount ≠ 0
  going : walk.exhausted = false
  sorted : rest.Pairwise fun a b => T.precedes q.orderBy a b = true
  matching : ∀ r ∈ rest, r ∈ T.matching q
  closed : ∀ a ∈ rest, ∀ r ∈ T.matching q, T.reaches null q.orderBy a r = true → r ∈ rest
  asked : ∀ page, walk.pages.request walk.cursor = .ok page → T.Shows db page ∧
    page.orderBy = q.orderBy ∧ page.limit = some pageSize ∧ page.offset = none ∧
    rest.Perm (T.matching page)

/-- What is assumed of the table and of the database that serves it. -/
structure NullWalkable (T : Table ρ K) (null : ρ → String → Bool) (db : Database σ)
    (q : SelectQuery) (pageSize : Nat) (idColumn : String) : Prop where
  nullable : T.Nullable null q.orderBy idColumn
  id_mem : baseColumn idColumn ∈ SeekCursor.names q.orderBy
  named : q.table = T.name
  ungrouped : q.groupBy = []
  served : T.ServedBy db q pageSize idColumn
  size_pos : 0 < pageSize

/-- A record whose cursor has the token. -/
def HasToken (T : Table ρ K) (ordering : OrderBy) (a : ρ) (token : String) : Prop :=
  ∃ c, SeekCursor.ofRow (T.row a) (SeekCursor.names ordering) = .ok c ∧ token = SeekCursor.token c

theorem Facing.nodup {rest : List ρ} {walk : SeekWalk}
    (h : Facing T null db q pageSize rest walk) : rest.Nodup := by
  refine h.sorted.imp ?_
  rintro a b hab rfl
  rw [Table.precedes_irrefl] at hab
  cases hab

theorem Facing.fetch (hq : NullWalkable T null db q pageSize idColumn) {rest : List ρ}
    {walk : SeekWalk} (h : Facing T null db q pageSize rest walk) {page : SelectQuery}
    (hpage : walk.pages.request walk.cursor = .ok page) (s : Session σ) :
    ∃ s', db.fetch page s = (.ok ((rest.take pageSize).map T.row), s') := by
  obtain ⟨hshows, horder, hlimit, hoffset, hperm⟩ := h.asked page hpage
  obtain ⟨rows, s', hfetch, hrows⟩ := hshows s
  have heq := hq.nullable.unique.eq_of_isResult hq.id_mem horder hrows hperm h.sorted
  rw [hlimit, hoffset, Table.window, Option.getD_none, List.drop_zero] at heq
  exact ⟨s', by rw [hfetch, heq]⟩

/-- From the cursor of the last record of a page the walk faces the records that it reaches. -/
theorem Facing.moveTo (hq : NullWalkable T null db q pageSize idColumn) {rest : List ρ}
    {walk : SeekWalk} (h : Facing T null db q pageSize rest walk)
    {a : ρ} (ha : a ∈ rest) {c : SeekCursor}
    (hc : SeekCursor.ofRow (T.row a) (SeekCursor.names q.orderBy) = .ok c) :
    Facing T null db q pageSize (rest.filter (T.reaches null q.orderBy a))
      ⟨walk.pages.moveTo walk.cursor (some c.token), some c.token, false⟩ := by
  have hrecord : a ∈ T.records := Table.mem_records_of_matching (h.matching a ha)
  refine ⟨⟨h.reads.query, h.reads.size, h.reads.ordering⟩, h.counted, rfl,
    h.sorted.filter _, fun r hr => h.matching r (List.mem_of_mem_filter hr), ?_, ?_⟩
  · intro b hb r hr hbr
    rw [List.mem_filter] at hb ⊢
    exact ⟨h.closed b hb.1 r hr hbr, Table.reaches_trans hb.2 hbr⟩
  · intro page hpage
    rw [SeekPages.request_some_of_parse_ok (hq.nullable.readsBack a hrecord c hc)] at hpage
    obtain ⟨horder, hlimit, hoffset, hmatching⟩ :=
      hq.nullable.matching_request (p := walk.pages.moveTo walk.cursor (some c.token))
        h.reads.ordering hrecord hc hpage
    have hquery : (walk.pages.moveTo walk.cursor (some c.token)).paged.query = q := h.reads.query
    have hsize : (walk.pages.moveTo walk.cursor (some c.token)).paged.pageSize = pageSize :=
      h.reads.size
    rw [hquery] at horder hmatching
    rw [hsize] at hlimit
    have hreads : (walk.pages.moveTo walk.cursor (some c.token)).Reads q pageSize :=
      ⟨hquery, hsize, h.reads.ordering⟩
    refine ⟨hq.served.page_shows hq.named hq.ungrouped hreads hpage, horder, hlimit, hoffset, ?_⟩
    -- Both lists hold the records of the table that `a` reaches, each of them once.
    have hnodup : (T.matching q).Nodup := (hq.nullable.unique.nodup hq.id_mem).filter _
    rw [hmatching, List.perm_ext_iff_of_nodup (h.nodup.filter _) (hnodup.filter _)]
    intro r
    rw [List.mem_filter, List.mem_filter]
    exact ⟨fun hr => ⟨h.matching r hr.1, hr.2⟩, fun hr => ⟨h.closed a ha r hr.1 hr.2, hr.2⟩⟩

/-! ## Steps -/

/-- A step fails, comes to the end, or returns a full page and goes on behind its last record. -/
theorem next_of_facing (hq : NullWalkable T null db q pageSize idColumn) {rest : List ρ}
    {walk : SeekWalk} (h : Facing T null db q pageSize rest walk) (s : Session σ) :
    (∃ e walk' s', next db (walk, s) = (.error e, walk', s')) ∨
      (∃ walk' s', walk'.exhausted = true ∧ next db (walk, s) =
        (.ok (if rest = [] then none else some ⟨walk.cursor, rest.map T.row, none⟩), walk', s')) ∨
      ∃ front a more c walk' s', rest = front ++ a :: more ∧
        SeekCursor.ofRow (T.row a) (SeekCursor.names q.orderBy) = .ok c ∧
        next db (walk, s) =
          (.ok (some ⟨walk.cursor, (front ++ [a]).map T.row, some c.token⟩), walk', s') ∧
        Facing T null db q pageSize (more.filter (T.reaches null q.orderBy a)) walk' := by
  cases hpage : walk.pages.request walk.cursor with
  | error e =>
    have hread := SeekPages.read_of_request_error db h.counted hpage s
    exact .inl ⟨e, _, _, next_of_read_error h.going hread⟩
  | ok page =>
    obtain ⟨s', hfetch⟩ := h.fetch hq hpage s
    have hread := SeekPages.read_of_request_ok db h.counted hpage s
    by_cases hlen : rest.length < pageSize
    · rw [List.take_of_length_le (Nat.le_of_lt hlen)] at hfetch
      have hshort : (rest.map T.row).length ≠ walk.pages.paged.pageSize := by
        rw [List.length_map, h.reads.size]
        omega
      simp only [hfetch, SeekPages.nextToken_of_short hshort] at hread
      refine .inr (.inl ⟨⟨walk.pages.moveTo walk.cursor none, none, true⟩, s', rfl, ?_⟩)
      rw [next_of_read_ok h.going hread]
      cases rest <;> rfl
    · have hpos := hq.size_pos
      obtain ⟨front, a, more, hrest, hsize⟩ : ∃ front a more, rest = front ++ a :: more ∧
          front.length + 1 = pageSize := by
        have hlast : pageSize - 1 < rest.length := by omega
        refine ⟨rest.take (pageSize - 1), rest[pageSize - 1], rest.drop pageSize, ?_, ?_⟩
        · conv_lhs => rw [← List.take_append_drop (pageSize - 1) rest,
            List.drop_eq_getElem_cons hlast, Nat.sub_add_cancel hpos]
        · rw [List.length_take_of_le hlast.le, Nat.sub_add_cancel hpos]
      have htake : rest.take pageSize = front ++ [a] := by
        rw [hrest, ← hsize, List.take_length_add_append]
        rfl
      rw [htake] at hfetch
      simp only [hfetch] at hread
      cases hc : SeekCursor.ofRow (T.row a) (SeekCursor.names q.orderBy) with
      | error e =>
        have htoken : walk.pages.nextToken ((front ++ [a]).map T.row) = .error e := by
          simp [SeekPages.nextToken, h.reads.size, h.reads.ordering, hsize, hc]
        simp only [htoken] at hread
        exact .inl ⟨e, _, _, next_of_read_error h.going hread⟩
      | ok c =>
        have htoken : walk.pages.nextToken ((front ++ [a]).map T.row) = .ok (some c.token) := by
          simp [SeekPages.nextToken, h.reads.size, h.reads.ordering, hsize, hc]
        simp only [htoken] at hread
        have hmem : a ∈ rest := by rw [hrest]; simp
        have hfacing := h.moveTo hq hmem hc
        have hsorted := h.sorted
        rw [hrest] at hsorted hfacing
        rw [Table.filter_reaches hsorted] at hfacing
        refine .inr (.inr ⟨front, a, more, c, _, s', hrest, hc, ?_, hfacing⟩)
        rw [next_of_read_ok h.going hread, if_neg (by simp)]
        rfl

theorem walks_of_exhausted {walk : SeekWalk} {s : Session σ} {pages : List SeekPage}
    {last : SeekWalk × Session σ} (h : Walks db (walk, s) pages last)
    (hover : walk.exhausted = true) : pages = [] := by
  cases h with
  | done _ => rfl
  | page hnext _ =>
    rw [next_of_exhausted db hover] at hnext
    cases hnext

/-- The records that a walk does not return are those that one of its cursors passes over. -/
theorem walks_of_facing (hq : NullWalkable T null db q pageSize idColumn)
    {state last : SeekWalk × Session σ} {pages : List SeekPage} (hw : Walks db state pages last)
    {rest : List ρ} (h : Facing T null db q pageSize rest state.1) :
    ∃ returned cursors : List ρ, pages.flatMap SeekPage.rows = returned.map T.row ∧
      returned.Sublist rest ∧ (∀ a ∈ cursors, a ∈ returned) ∧
      List.Forall₂ (HasToken T q.orderBy) cursors (pages.filterMap SeekPage.next) ∧
      ∀ r ∈ rest, r ∉ returned ↔ ∃ a ∈ cursors, T.skips null q.orderBy a r = true := by
  -- By the steps of the walk: each page leaves the records that its last one reaches.
  induction hw generalizing rest with
  | @done walk walk' s s' hnext =>
    rcases next_of_facing hq h s with ⟨e, _, _, herror⟩ | ⟨_, _, -, hshort⟩ |
      ⟨_, _, _, _, _, _, -, -, hfull, -⟩
    · rw [herror] at hnext; cases hnext
    · rw [hshort] at hnext
      have hnil : rest = [] := by
        by_contra hne
        rw [if_neg hne] at hnext
        cases hnext
      exact ⟨[], [], rfl, List.nil_sublist _, by simp, .nil, by simp [hnil]⟩
    · rw [hfull] at hnext; cases hnext
  | @page walk walk' s s' page pages last hnext hmore ih =>
    rcases next_of_facing hq h s with ⟨e, _, _, herror⟩ | ⟨_, _, hover, hshort⟩ |
      ⟨front, a, more, c, _, _, hrest, hc, hfull, hfacing⟩
    · rw [herror] at hnext; cases hnext
    · rw [hshort] at hnext
      have hne : rest ≠ [] := by
        rintro hnil
        rw [if_pos hnil] at hnext
        cases hnext
      rw [if_neg hne] at hnext
      cases hnext
      obtain rfl := walks_of_exhausted hmore hover
      exact ⟨rest, [], by simp, List.Sublist.refl _, by simp, .nil, fun r hr => by simp [hr]⟩
    · rw [hfull] at hnext
      cases hnext
      obtain ⟨returned, cursors, hrows, hsublist, hcursors, htokens, hmissing⟩ := ih hfacing
      subst hrest
      have hsub : ∀ r ∈ front ++ a :: more, r ∈ T.records :=
        fun r hr => Table.mem_records_of_matching (h.matching r hr)
      have hvalues := hq.nullable.null_eq_false (hsub a (by simp)) hc
      refine ⟨front ++ a :: returned, a :: cursors, ?_, ?_, ?_, ?_, ?_⟩
      · simp [hrows]
      · exact (hsublist.trans List.filter_sublist).cons_cons a |>.append_left front
      · rw [List.forall_mem_cons]
        exact ⟨by simp, fun b hb => by simp [hcursors b hb]⟩
      · exact .cons ⟨c, hc, rfl⟩ htokens
      · exact hq.nullable.missing_step hsub h.sorted hvalues hsublist hcursors hmissing

/-! ## Whole walks -/

theorem facing_start (hq : NullWalkable T null db q pageSize idColumn) {p : SeekPages}
    (hreads : p.Reads q pageSize) (hcount : p.paged.resultCount ≠ 0) {records : List ρ}
    (hsorted : records.Pairwise fun a b => T.precedes q.orderBy a b = true)
    (hperm : records.Perm (T.matching q)) :
    Facing T null db q pageSize records (SeekWalk.start p none) := by
  refine ⟨hreads, hcount, by simp [SeekWalk.start, hcount], hsorted,
    fun r hr => hperm.mem_iff.1 hr, fun a _ r hr _ => hperm.mem_iff.2 hr, ?_⟩
  intro page hpage
  have hfetched : p.pageQuery none = .ok page := hpage
  have hshows := hq.served.page_shows hq.named hq.ungrouped hreads hfetched
  have hfirst : page = { q with limit := some pageSize, offset := none } := by
    rw [← hreads.query, ← hreads.size]
    exact (Except.ok.inj hpage).symm
  subst hfirst
  exact ⟨hshows, rfl, rfl, rfl, hperm⟩

/-- A walk that comes to its end without an error returns records in order, each at most once. Those
that are missing come behind one of its cursors by a NULL; so it returns as many rows as were
counted if and only if no cursor passes over a record, and always if NULLs come first. -/
theorem walks_missing_iff {id : Option String} (hname : q.table = T.name) (hgroup : q.groupBy = [])
    (hsize : 0 < pageSize) (hid : idColumn = id.getD db.settings.idColumn)
    (hT : T.Nullable null (SeekPages.resolve q.orderBy idColumn) idColumn)
    (hdb : T.ServedBy db (q.forPages idColumn) pageSize idColumn) {s s₁ : Session σ}
    {p : SeekPages} (hstart : SeekPages.start db q pageSize id s = (.ok p, s₁))
    {pages : List SeekPage} {last : SeekWalk × Session σ}
    (hwalks : Walks db (SeekWalk.start p none, s₁) pages last) :
    ∃ records returned cursors : List ρ, records.Perm (T.matching q) ∧
      records.Pairwise (fun a b =>
        T.precedes (SeekPages.resolve q.orderBy idColumn) a b = true) ∧
      p.paged.resultCount = records.length ∧
      returned.Sublist records ∧ pages.flatMap SeekPage.rows = returned.map T.row ∧
      List.Forall₂ (HasToken T (SeekPages.resolve q.orderBy idColumn)) cursors
        (pages.filterMap SeekPage.next) ∧
      (∀ r ∈ records, r ∉ returned ↔
        ∃ a ∈ cursors, T.skips null (SeekPages.resolve q.orderBy idColumn) a r = true) ∧
      ((pages.flatMap SeekPage.rows).length = p.paged.resultCount ↔
        ∀ a ∈ cursors, ∀ r ∈ records,
          T.skips null (SeekPages.resolve q.orderBy idColumn) a r = false) ∧
      (T.NullsFirst null (SeekPages.resolve q.orderBy idColumn) →
        (pages.flatMap SeekPage.rows).length = p.paged.resultCount) := by
  have hq : NullWalkable T null db (q.forPages idColumn) pageSize idColumn :=
    ⟨hT, SeekPages.id_mem_names_resolve _ _, hname, hgroup, hdb, hsize⟩
  have hreads := SeekPages.reads_unread q idColumn hsize (T.matching q).length
  obtain ⟨s', hstart'⟩ := start_of_served hid hname hgroup hsize hdb s
  obtain ⟨rfl, rfl⟩ : SeekPages.unread q idColumn hsize (T.matching q).length = p ∧ s' = s₁ := by
    simpa using hstart'.symm.trans hstart
  obtain ⟨records, hperm, hsorted⟩ := exists_sorted hT.unique hq.id_mem
    (hdb.all.shows hq.named hq.ungrouped) s
  generalize hp : SeekPages.unread q idColumn hsize (T.matching q).length = p at hreads hwalks ⊢
  have hlength : p.paged.resultCount = records.length := by
    rw [hperm.length_eq, ← hp]
    rfl
  have hsub : ∀ r ∈ records, r ∈ T.records :=
    fun r hr => Table.mem_records_of_matching (hperm.mem_iff.1 hr)
  obtain ⟨returned, cursors, hrows, hsublist, hcursors, htokens, hmissing⟩ :
      ∃ returned cursors : List ρ, pages.flatMap SeekPage.rows = returned.map T.row ∧
        returned.Sublist records ∧ (∀ a ∈ cursors, a ∈ returned) ∧
        List.Forall₂ (HasToken T (SeekPages.resolve q.orderBy idColumn)) cursors
          (pages.filterMap SeekPage.next) ∧
        ∀ r ∈ records, r ∉ returned ↔
          ∃ a ∈ cursors, T.skips null (SeekPages.resolve q.orderBy idColumn) a r = true := by
    by_cases hnone : p.paged.resultCount = 0
    · have hnil : records = [] := by rw [← List.length_eq_zero_iff, ← hlength, hnone]
      have hover : (SeekWalk.start p none).exhausted = true := by simp [SeekWalk.start, hnone]
      obtain rfl := walks_of_exhausted hwalks hover
      exact ⟨[], [], rfl, List.nil_sublist _, by simp, .nil, by simp [hnil]⟩
    · have hfacing : Facing T null db (q.forPages idColumn) pageSize records
          (SeekWalk.start p none) := facing_start hq hreads hnone hsorted hperm
      exact walks_of_facing hq hwalks hfacing
  have hcomplete : (pages.flatMap SeekPage.rows).length = p.paged.resultCount ↔
      ∀ a ∈ cursors, ∀ r ∈ records,
        T.skips null (SeekPages.resolve q.orderBy idColumn) a r = false := by
    rw [hrows, List.length_map, hlength]
    constructor
    · intro hlen a ha r hr
      rw [← hsublist.eq_of_length hlen] at hr
      by_contra hskip
      exact (hmissing r (hsublist.subset hr)).2 ⟨a, ha, by simpa using hskip⟩ hr
    · intro hnone
      have hall : records ⊆ returned := by
        intro r hr
        by_contra hnot
        obtain ⟨a, ha, hskip⟩ := (hmissing r hr).1 hnot
        rw [hnone a ha r hr] at hskip
        cases hskip
      have hnodup : records.Nodup :=
        hperm.nodup_iff.2 ((hT.unique.nodup hq.id_mem).filter _)
      exact Nat.le_antisymm hsublist.length_le (hnodup.subperm hall).length_le
  have hclean : ∀ a ∈ cursors, ∃ c, SeekCursor.ofRow (T.row a)
      (SeekCursor.names (SeekPages.resolve q.orderBy idColumn)) = .ok c :=
    ((List.forall₂_and_left _ _).1
      (htokens.imp fun _ _ h => ⟨⟨h.choose, h.choose_spec.1⟩, h⟩)).1
  refine ⟨records, returned, cursors, hperm, hsorted, hlength, hsublist, hrows, htokens, hmissing,
    hcomplete, fun hfirst => hcomplete.2 ?_⟩
  intro a ha r hr
  have harecord := hsub a (hsublist.subset (hcursors a ha))
  obtain ⟨c, hc⟩ := hclean a ha
  exact hfirst.skips_eq_false harecord (hsub r hr) (hT.null_eq_false harecord hc)

end SeekWalk

/-! ### An item without a rating -/

namespace Table

/-- An item by its id, with a rating or without. -/
abbrev Rated := Int × Option Int

def ratedRow (item : Rated) : Row :=
  [("x", item.2.elim .null fun x => .num (.int x)), ("id", .num (.int item.1))]

/-- Two items, the second without a rating; in the order of the ratings it comes last. -/
def ofRated : Table Rated fun _ => Int where
  name := "items"
  records := [(1, some 5), (2, none)]
  row := ratedRow
  truth item atom :=
    match atom.test with
    | .compare op (.int value) =>
      if atom.column.name = "x" then item.2.any fun x => op.compares x value
      else op.compares item.1 value
    | .member negated [] => negated
    | _ => false
  truth_member _ _ _ := rfl
  key item column := if column = "main.x" then item.2.getD 100 else item.1

def unrated (item : Rated) (column : String) : Bool := column = "main.x" && item.2.isNone

def ratedQuery : SelectQuery := { SelectQuery.ofTable "items" with orderBy := [("x", .asc)] }

def ratedOrder : OrderBy := [("main.x", .asc), ("main.id", .asc)]

def ratedPage : SelectQuery := { ratedQuery.forPages "id" with limit := some 1 }

def ratedHead : String := ratedQuery.head .postgres

def ratedDatabase : Database Unit := ofRated.database .postgres ratedHead

theorem incomparable_ratedHead : Sql.incomparable "SELECT COUNT(" ratedHead = true := by
  decide +kernel

theorem servedBy_rated : ofRated.ServedBy ratedDatabase (ratedQuery.forPages "id") 1 "id" :=
  servedBy_database (q := ratedQuery.forPages "id") incomparable_ratedHead rfl rfl rfl 1 "id"

/-- What the database answers to a query that shows all columns. -/
theorem fetch_rated {q : SelectQuery} (h : q.columns = .all) {rows : List Row}
    (hrows : (window q.limit q.offset (ofRated.sorted q.orderBy (ofRated.matching q))).map
      ratedRow = rows) (s : Session Unit) : ∃ s', ratedDatabase.fetch q s = (.ok rows, s') := by
  have hhead : ratedHead = q.head .postgres := by rw [SelectQuery.head, h]; rfl
  rw [← hrows]
  exact fetch_database incomparable_ratedHead hhead s

theorem forall_mem_ratedOrder {P : String × SortOrder → Prop} (hx : P ("main.x", .asc))
    (hid : P ("main.id", .asc)) : ∀ entry ∈ ratedOrder, P entry := by
  simpa [ratedOrder] using ⟨hx, hid⟩

theorem binds_int {item : Rated} {column : String} {n : Int} {value : Bound}
    (hv : Fields.get? (ratedRow item) (baseColumn column) = some (.num (.int n)))
    (h : ofRated.Binds item column value) : value = .int n := by
  obtain ⟨v, hget, hvalue⟩ := h
  obtain rfl : Json.num (.int n) = v := Option.some.inj (hv.symm.trans hget)
  cases hvalue
  rfl

def ratedToken : String := SeekCursor.token ⟨ratedRow (1, some 5)⟩

theorem parse_ratedToken : SeekCursor.parse ratedToken = .ok ⟨ratedRow (1, some 5)⟩ := by
  have hread : ∀ n : Int, 0 ≤ n → n ≤ 5 →
      (Json.num (.int n)).reread? = some (.num (.int n)) := by
    intro n hlow hhigh
    rw [Json.reread?_num, Number.reread?_int (by omega) (by omega)]
    rfl
  rw [ratedToken, SeekCursor.parse_token_eq_ok_iff_of_nodup (by decide)]
  exact .cons ⟨rfl, hread 5 (by decide) (by decide)⟩
    (.cons ⟨rfl, hread 1 (by decide) (by decide)⟩ .nil)

theorem nullable_rated : ofRated.Nullable unrated ratedOrder "id" where
  distinct := by decide
  unique := forall_mem_ratedOrder (fun h => absurd h (by decide)) fun _ => by decide
  shows := by
    rintro ⟨id, rating⟩ -
    refine forall_mem_ratedOrder ?_ ?_
    · rintro v hv
      obtain rfl := Option.some.inj (show some _ = some v from hv)
      cases rating <;> rfl
    · rintro v hv
      obtain rfl := Option.some.inj (show some _ = some v from hv)
      rfl
  readsBack := by
    intro item hitem c hc
    obtain rfl | rfl : item = (1, some 5) ∨ item = (2, none) := by simpa [ofRated] using hitem
    · obtain rfl := Except.ok.inj hc
      exact parse_ratedToken
    · cases hc
  placed := forall_mem_ratedOrder (.inr (by decide)) (.inr (by decide))
  compares := by
    rintro ⟨id, rating⟩ - ⟨other, value⟩ -
    refine forall_mem_ratedOrder ?_ ?_
    · intro bound hbound op
      cases value with
      | none =>
        obtain ⟨v, hv, hnull⟩ := hbound
        obtain rfl := Option.some.inj (show some Json.null = some v from hv)
        cases hnull
      | some x =>
        rw [binds_int rfl hbound]
        cases rating <;> rfl
    · intro bound hbound op
      rw [binds_int rfl hbound]
      rfl

def ratedPages : SeekPages :=
  ⟨⟨ratedQuery.forPages "id", 1, 2, Nat.zero_lt_one⟩, ratedOrder, none, none, false⟩

/-- Where the walk stands behind the first item. -/
def behindRated : SeekWalk :=
  ⟨ratedPages.moveTo none (some ratedToken), some ratedToken, false⟩

theorem next_firstRated (s : Session Unit) : ∃ s',
    SeekWalk.next ratedDatabase (SeekWalk.start ratedPages none, s) =
      (.ok (some ⟨none, [ratedRow (1, some 5)], some ratedToken⟩), behindRated, s') := by
  have hrequest : ratedPages.request none = .ok ratedPage := rfl
  obtain ⟨s', hfetch⟩ : ∃ s', ratedDatabase.fetch ratedPage s =
      (.ok [ratedRow (1, some 5)], s') := fetch_rated rfl rfl s
  have htoken : ratedPages.nextToken [ratedRow (1, some 5)] = .ok (some ratedToken) := rfl
  have hread := SeekPages.read_of_request_ok ratedDatabase (p := ratedPages) (by decide) hrequest s
  simp only [hfetch, htoken] at hread
  have hnext := @SeekWalk.next_of_read_ok _ ratedDatabase (SeekWalk.start ratedPages none) _ _ _ _
    rfl hread
  exact ⟨s', hnext⟩

theorem request_behindRated : behindRated.pages.request (some ratedToken) =
    .ok (ratedPage.andWhere (SeekCursor.seekGroup ratedOrder [.int 5, .int 1])) := by
  rw [SeekPages.request_some_of_parse_ok parse_ratedToken]
  rfl

theorem next_behindRated (s : Session Unit) : ∃ walk s',
    SeekWalk.next ratedDatabase (behindRated, s) = (.ok none, walk, s') := by
  obtain ⟨s', hfetch⟩ : ∃ s', ratedDatabase.fetch
      (ratedPage.andWhere (SeekCursor.seekGroup ratedOrder [.int 5, .int 1])) s = (.ok [], s') :=
    fetch_rated rfl rfl s
  have hread := SeekPages.read_of_request_ok ratedDatabase (p := behindRated.pages) (by decide)
    request_behindRated s
  have htoken : behindRated.pages.nextToken [] = .ok none := rfl
  simp only [hfetch, htoken] at hread
  have hnext := @SeekWalk.next_of_read_ok _ ratedDatabase behindRated _ _ _ _ rfl hread
  exact ⟨_, s', hnext⟩

/-- The first page holds the first item, and nothing is found behind its cursor. -/
theorem walks_rated : ∃ p s₁ pages last,
    SeekPages.start ratedDatabase ratedQuery 1 none (.start ()) = (.ok p, s₁) ∧
      SeekWalk.Walks ratedDatabase (SeekWalk.start p none, s₁) pages last ∧
      p.paged.resultCount = 2 ∧ pages.flatMap SeekPage.rows = [ratedRow (1, some 5)] := by
  obtain ⟨s₁, hstart⟩ : ∃ s₁, SeekPages.start ratedDatabase ratedQuery 1 none (.start ()) =
      (.ok ratedPages, s₁) :=
    @SeekWalk.start_of_served _ _ _ _ ofRated ratedDatabase ratedQuery 1 "id" none rfl rfl
      rfl Nat.zero_lt_one servedBy_rated (.start ())
  obtain ⟨s₂, hfirst⟩ := next_firstRated s₁
  obtain ⟨walk, s₃, hsecond⟩ := next_behindRated s₂
  exact ⟨ratedPages, s₁, _, _, hstart, .page hfirst (.done hsecond), rfl, rfl⟩

/-- The second item comes behind the first by its NULL, so a walk by pages of one item comes to its
end without it, and without an error. -/
theorem walks_loses_null : ofRated.Nullable unrated ratedOrder "id" ∧
    ratedQuery.table = ofRated.name ∧
    ofRated.ServedBy ratedDatabase (ratedQuery.forPages "id") 1 "id" ∧
    ∃ p s₁ pages last,
      SeekPages.start ratedDatabase ratedQuery 1 none (.start ()) = (.ok p, s₁) ∧
        SeekWalk.Walks ratedDatabase (SeekWalk.start p none, s₁) pages last ∧
        (pages.flatMap SeekPage.rows).length < p.paged.resultCount := by
  obtain ⟨p, s₁, pages, last, hstart, hwalks, hcount, hrows⟩ := walks_rated
  refine ⟨nullable_rated, rfl, servedBy_rated, p, s₁, pages, last, hstart, hwalks, ?_⟩
  rw [hcount, hrows]
  decide

theorem walks_missing_iff_rated : ∃ p s₁ pages last,
    SeekPages.start ratedDatabase ratedQuery 1 none (.start ()) = (.ok p, s₁) ∧
      SeekWalk.Walks ratedDatabase (SeekWalk.start p none, s₁) pages last ∧
      ∃ cursors, List.Forall₂ (SeekWalk.HasToken ofRated ratedOrder) cursors
          (pages.filterMap SeekPage.next) ∧
        ∃ a ∈ cursors, ofRated.skips unrated ratedOrder a (2, none) = true := by
  obtain ⟨p, s₁, pages, last, hstart, hwalks, -, hrows⟩ := walks_rated
  obtain ⟨records, returned, cursors, hperm, -, -, -, hreturned, htokens, hmissing, -⟩ :=
    @SeekWalk.walks_missing_iff _ _ _ _ ofRated unrated ratedDatabase ratedQuery 1 "id" none rfl
      rfl Nat.zero_lt_one rfl nullable_rated servedBy_rated _ _ _ hstart _ _ hwalks
  refine ⟨p, s₁, pages, last, hstart, hwalks, cursors, htokens, (hmissing (2, none) ?_).1 ?_⟩
  · exact hperm.mem_iff.2 (by decide)
  · intro hin
    rw [hreturned] at hrows
    have hmem := List.mem_map_of_mem (f := ofRated.row) hin
    rw [hrows] at hmem
    simp [ofRated, ratedRow] at hmem

end Table
end FilterSql

import FilterSql.Proofs.Paging.Resuming
import FilterSql.Proofs.Paging.Table
import Mathlib.Data.Int.Order.Basic
import Mathlib.Data.List.Sort

/-!
# FilterSql.Proofs.Paging.Walking

A walk through all the pages of a query on a table that does not change.

* `Table.ServedBy`: a database that answers what the statements of a query and its pages ask for.
* `SeekWalk.Walks`: steps until there are no more pages.
* `SeekWalk.Before`: the invariant. The records returned so far and those to come make up all of
  them in their order, and the cursor is that of the last one returned.
* `SeekWalk.next_of_before`: a step. `SeekWalk.walks_of_before`: all the steps to come.
* `SeekWalk.walks_all`: the pages of a walk make up the whole result.
* `Table.database`: a database that reads the statements that it is sent, and so serves its table.
-/

namespace FilterSql

open Sql (Reader)

/-! ## Databases that serve a table -/

/-- A query in the order in which its pages are read. -/
def SelectQuery.forPages (q : SelectQuery) (idColumn : String) : SelectQuery :=
  { q with orderBy := SeekPages.resolve q.orderBy idColumn }

structure SeekPages.Reads (p : SeekPages) (q : SelectQuery) (pageSize : Nat) : Prop where
  query : p.paged.query = q
  size : p.paged.pageSize = pageSize
  ordering : p.ordering = q.orderBy

/-- The pages of a query of which none was read. -/
def SeekPages.unread (q : SelectQuery) (idColumn : String) {pageSize : Nat} (hsize : 0 < pageSize)
    (count : Nat) : SeekPages :=
  ⟨⟨q.forPages idColumn, pageSize, count, hsize⟩, resolve q.orderBy idColumn, none, none,
    count == 0⟩

/-- A page shows the same of the same table as the query. -/
theorem SeekPages.Reads.page_shows {p : SeekPages} {q page : SelectQuery} {pageSize : Nat}
    {cursor : Option SeekCursor} (hreads : p.Reads q pageSize)
    (hpage : p.pageQuery cursor = .ok page) :
    page.table = q.table ∧ page.groupBy = q.groupBy ∧
      ∀ dialect, page.head dialect = q.head dialect := by
  rw [← hreads.query]
  unfold pageQuery at hpage
  cases cursor with
  | none =>
    cases hpage
    exact ⟨rfl, rfl, fun _ => rfl⟩
  | some c =>
    cases hafter : c.after p.ordering with
    | error e => simp [hafter] at hpage
    | ok group =>
      simp only [hafter, Except.ok.injEq] at hpage
      subst hpage
      exact ⟨rfl, rfl, fun _ => rfl⟩

theorem SeekPages.reads_unread (q : SelectQuery) (idColumn : String) {pageSize : Nat}
    (hsize : 0 < pageSize) (count : Nat) :
    (unread q idColumn hsize count).Reads (q.forPages idColumn) pageSize :=
  ⟨rfl, rfl, rfl⟩

namespace Table

variable {σ ρ : Type} {K : String → Type} [∀ column, LinearOrder (K column)]

/-- A statement that begins with the given text is answered by what it asks for. -/
def Serves (T : Table ρ K) (db : Database σ) (head : String) (statement : Statement) : Prop :=
  ∀ server, ∃ rows server', db.backend.fetch statement server = (.ok rows, server') ∧
    T.Answers db.dialect head statement rows

/-- The statements of a query and its pages are answered. The query and the pages show the same of
the records that they ask for. -/
structure ServedBy (T : Table ρ K) (db : Database σ) (q : SelectQuery) (pageSize : Nat)
    (idColumn : String) : Prop where
  /-- The first row of the answer tells the number that the statement asks for. -/
  count : ∀ server, ∃ row more server',
    db.backend.fetch (q.countStatement db.dialect idColumn) server = (.ok (row :: more), server') ∧
      T.Counts db.dialect idColumn (q.countStatement db.dialect idColumn) row
  all : T.Serves db (q.head db.dialect) (q.statement db.dialect)
  page : ∀ (p : SeekPages) (cursor : Option SeekCursor) (page : SelectQuery),
    p.Reads q pageSize → p.pageQuery cursor = .ok page →
      T.Serves db (q.head db.dialect) (page.statement db.dialect)

/-- What is fetched for a query is what the query asks for. -/
def Shows (T : Table ρ K) (db : Database σ) (q : SelectQuery) : Prop :=
  ∀ s, ∃ rows s', db.fetch q s = (.ok rows, s') ∧ T.IsResult q.parts rows

variable {T : Table ρ K} {db : Database σ} {q : SelectQuery} {pageSize : Nat} {idColumn : String}

theorem Serves.shows (hname : q.table = T.name) (hgroup : q.groupBy = [])
    (h : T.Serves db (q.head db.dialect) (q.statement db.dialect)) : T.Shows db q := by
  intro s
  obtain ⟨rows, server', hfetch, hrows⟩ := h s.server
  refine ⟨rows, (db.fetch q s).2, ?_, (answers_statement_iff hname hgroup _ rows).1 hrows⟩
  simp only [Database.fetch, Database.sendFetch, Session.send, hfetch]

theorem ServedBy.page_shows (h : T.ServedBy db q pageSize idColumn) (hname : q.table = T.name)
    (hgroup : q.groupBy = []) {p : SeekPages} {cursor : Option SeekCursor} {page : SelectQuery}
    (hreads : p.Reads q pageSize) (hpage : p.pageQuery cursor = .ok page) : T.Shows db page := by
  obtain ⟨htable, hgroupBy, hhead⟩ := hreads.page_shows hpage
  have hserves := h.page p cursor page hreads hpage
  rw [← hhead db.dialect] at hserves
  exact hserves.shows (htable.trans hname) (hgroupBy.trans hgroup)

end Table

namespace SeekWalk

/-- Steps until there are no more pages; none of them fails. -/
inductive Walks {σ : Type} (db : Database σ) :
    SeekWalk × Session σ → List SeekPage → SeekWalk × Session σ → Prop where
  | done {walk walk' : SeekWalk} {s s' : Session σ} :
      next db (walk, s) = (.ok none, walk', s') → Walks db (walk, s) [] (walk', s')
  | page {walk walk' : SeekWalk} {s s' : Session σ} {page : SeekPage} {pages : List SeekPage}
      {last : SeekWalk × Session σ} :
      next db (walk, s) = (.ok (some page), walk', s') → Walks db (walk', s') pages last →
      Walks db (walk, s) (page :: pages) last

variable {σ ρ : Type} {K : String → Type} [∀ column, LinearOrder (K column)]
variable {T : Table ρ K} {db : Database σ} {q : SelectQuery} {pageSize : Nat} {idColumn : String}

/-- Where a walk stands that has returned some records and has the rest before it. -/
structure Before (T : Table ρ K) (q : SelectQuery) (pageSize : Nat) (returned rest : List ρ)
    (walk : SeekWalk) : Prop where
  reads : walk.pages.Reads q pageSize
  counted : walk.pages.paged.resultCount ≠ 0
  going : walk.exhausted = false
  sorted : (returned ++ rest).Pairwise fun a b => T.precedes q.orderBy a b = true
  perm : (returned ++ rest).Perm (T.matching q)
  place : returned = [] ∧ walk.cursor = none ∨
    ∃ front a c, returned = front ++ [a] ∧ walk.cursor = some (SeekCursor.token c) ∧
      SeekCursor.ofRow (T.row a) (SeekCursor.names q.orderBy) = .ok c

structure Walkable (T : Table ρ K) (db : Database σ) (q : SelectQuery) (pageSize : Nat)
    (idColumn : String) : Prop where
  sortable : T.Sortable q.orderBy idColumn
  id_mem : baseColumn idColumn ∈ SeekCursor.names q.orderBy
  named : q.table = T.name
  ungrouped : q.groupBy = []
  served : T.ServedBy db q pageSize idColumn
  size_pos : 0 < pageSize

theorem Walkable.page_shows (hq : Walkable T db q pageSize idColumn) {p : SeekPages}
    {cursor : Option SeekCursor} {page : SelectQuery} (hreads : p.Reads q pageSize)
    (hpage : p.pageQuery cursor = .ok page) : T.Shows db page :=
  hq.served.page_shows hq.named hq.ungrouped hreads hpage

theorem Before.request (hq : Walkable T db q pageSize idColumn) {returned rest : List ρ}
    {walk : SeekWalk} (h : Before T q pageSize returned rest walk) :
    ∃ page, walk.pages.request walk.cursor = .ok page ∧ T.Shows db page ∧
      page.orderBy = q.orderBy ∧ page.limit = some pageSize ∧ page.offset = none ∧
      rest.Perm (T.matching page) := by
  have hreads := h.reads
  rcases h.place with ⟨rfl, hcursor⟩ | ⟨front, a, c, rfl, hcursor, hc⟩
  · have hpage : walk.pages.pageQuery none =
        .ok { q with limit := some pageSize, offset := none } := by
      simp only [SeekPages.pageQuery, hreads.query, hreads.size]
    refine ⟨_, ?_, hq.page_shows hreads hpage, rfl, rfl, rfl, h.perm⟩
    rw [hcursor, SeekPages.request_none, hreads.query, hreads.size]
  · have ha : a ∈ T.records := Table.mem_records_of_matching (h.perm.mem_iff.1 (by simp))
    obtain ⟨c', values, hc', hparse, hafter, hvalues⟩ := hq.sortable.exists_cursor ha
    obtain rfl : c' = c := Except.ok.inj (hc'.symm.trans hc)
    have hpage : walk.pages.pageQuery (some c') = .ok
        ({ q with limit := some pageSize, offset := none }.andWhere
          (SeekCursor.seekGroup q.orderBy values)) := by
      simp only [SeekPages.pageQuery, hreads.ordering, hafter, hreads.query, hreads.size]
    refine ⟨_, ?_, hq.page_shows hreads hpage, rfl, rfl, rfl, ?_⟩
    · rw [hcursor, SeekPages.request_some_of_parse_ok hparse, hpage]
    -- The filter of the page keeps what the last record returned precedes, and that is `rest`.
    · rw [hq.sortable.matching_after _ ha hvalues]
      have hsorted := h.sorted
      rw [List.append_assoc, List.singleton_append] at hsorted
      have hfilter := h.perm.filter (T.precedes q.orderBy a)
      rw [List.append_assoc, List.singleton_append, Table.filter_precedes hsorted] at hfilter
      exact hfilter

theorem Before.fetch (hq : Walkable T db q pageSize idColumn) {returned rest : List ρ}
    {walk : SeekWalk} (h : Before T q pageSize returned rest walk) (s : Session σ) :
    ∃ page s', walk.pages.request walk.cursor = .ok page ∧
      db.fetch page s = (.ok ((rest.take pageSize).map T.row), s') := by
  obtain ⟨page, hrequest, hshows, horder, hlimit, hoffset, hperm⟩ := h.request hq
  obtain ⟨rows, s', hfetch, hrows⟩ := hshows s
  have hsorted := (List.pairwise_append.1 h.sorted).2.1
  have heq := hq.sortable.isUnique.eq_of_isResult hq.id_mem horder hrows hperm hsorted
  rw [hlimit, hoffset, Table.window, Option.getD_none, List.drop_zero] at heq
  exact ⟨page, s', hrequest, by rw [hfetch, heq]⟩

theorem next_of_short (hq : Walkable T db q pageSize idColumn) {returned rest : List ρ}
    {walk : SeekWalk} (h : Before T q pageSize returned rest walk) (hr : rest.length < pageSize)
    (s : Session σ) : ∃ pages s', next db (walk, s) =
      (.ok (if rest = [] then none else some ⟨walk.cursor, rest.map T.row, none⟩),
        ⟨pages, none, true⟩, s') := by
  obtain ⟨page, s', hrequest, hfetch⟩ := h.fetch hq s
  rw [List.take_of_length_le (Nat.le_of_lt hr)] at hfetch
  have hshort : (rest.map T.row).length ≠ walk.pages.paged.pageSize := by
    rw [List.length_map, h.reads.size]
    omega
  have hread := SeekPages.read_of_request_ok db h.counted hrequest s
  simp only [hfetch, SeekPages.nextToken_of_short hshort] at hread
  refine ⟨walk.pages.moveTo walk.cursor none, s', ?_⟩
  rw [next_of_read_ok h.going hread]
  cases rest with
  | nil => rfl
  | cons r more => rfl

theorem next_of_full (hq : Walkable T db q pageSize idColumn) {returned rest : List ρ}
    {walk : SeekWalk} (h : Before T q pageSize returned rest walk) (hr : pageSize ≤ rest.length)
    (s : Session σ) : ∃ page walk' s', next db (walk, s) = (.ok (some page), walk', s') ∧
      page.rows = (rest.take pageSize).map T.row ∧
      Before T q pageSize (returned ++ rest.take pageSize) (rest.drop pageSize) walk' := by
  obtain ⟨page, s', hrequest, hfetch⟩ := h.fetch hq s
  have hlen : (rest.take pageSize).length = pageSize := List.length_take_of_le hr
  have hne : rest.take pageSize ≠ [] := by
    have := hq.size_pos
    rw [← List.length_pos_iff, hlen]
    exact this
  obtain ⟨front, a, hfront⟩ := (List.eq_nil_or_concat' _).resolve_left hne
  have ha : a ∈ T.records := by
    have hmem : a ∈ rest := List.mem_of_mem_take (by rw [hfront]; simp)
    exact Table.mem_records_of_matching (h.perm.mem_iff.1 (by simp [hmem]))
  obtain ⟨c, values, hc, -, -, -⟩ := hq.sortable.exists_cursor ha
  have htoken : walk.pages.nextToken ((rest.take pageSize).map T.row) =
      .ok (some (SeekCursor.token c)) := by
    refine SeekPages.nextToken_eq_ok_some_iff.2 ⟨T.row a, c, ?_, ?_, ?_, rfl⟩
    · rw [hfront]; simp
    · rw [List.length_map, hlen, h.reads.size]
    · rw [h.reads.ordering]; exact hc
  have hread := SeekPages.read_of_request_ok db h.counted hrequest s
  simp only [hfetch, htoken] at hread
  have hnext := next_of_read_ok h.going hread
  rw [if_neg (by simpa using hne)] at hnext
  refine ⟨_, _, s', hnext, rfl, ⟨?_, h.counted, rfl, ?_, ?_, ?_⟩⟩
  · exact ⟨h.reads.query, h.reads.size, h.reads.ordering⟩
  · rw [List.append_assoc, List.take_append_drop]
    exact h.sorted
  · rw [List.append_assoc, List.take_append_drop]
    exact h.perm
  · exact .inr ⟨returned ++ front, a, c, by rw [hfront, List.append_assoc], rfl, hc⟩

/-- The pages to come make up the records to come; all but the last of them are full. -/
theorem walks_of_before (hq : Walkable T db q pageSize idColumn) {returned rest : List ρ}
    {walk : SeekWalk} (h : Before T q pageSize returned rest walk) (s : Session σ) :
    ∃ pages last s', Walks db (walk, s) pages (last, s') ∧ last.exhausted = true ∧
      pages.flatMap SeekPage.rows = rest.map T.row ∧
      (∀ page ∈ pages.dropLast, page.rows.length = pageSize) ∧
      ∀ page ∈ pages, 0 < page.rows.length ∧ page.rows.length ≤ pageSize := by
  -- By the number of records to come: a full page is not empty, so it leaves fewer of them.
  induction hn : rest.length using Nat.strongRecOn generalizing returned rest walk s with
  | ind n ih =>
    subst hn
    have hpos := hq.size_pos
    by_cases hr : rest.length < pageSize
    · obtain ⟨pages, s', hnext⟩ := next_of_short hq h hr s
      by_cases hnil : rest = []
      · rw [if_pos hnil] at hnext
        exact ⟨[], _, s', .done hnext, rfl, by simp [hnil], by simp, by simp⟩
      · rw [if_neg hnil] at hnext
        have hlen := List.length_pos_iff.2 hnil
        refine ⟨_, _, s', .page hnext (.done (next_of_exhausted db rfl s')), rfl, by simp, by simp,
          ?_⟩
        simp only [List.mem_singleton, forall_eq, List.length_map]
        omega
    · have hfull : pageSize ≤ rest.length := by omega
      obtain ⟨page, walk', s', hnext, hrows, hbefore⟩ := next_of_full hq h hfull s
      obtain ⟨pages, last, s₂, hwalks, hover, hflat, hlast, hall⟩ :=
        ih (rest.drop pageSize).length (by rw [List.length_drop]; omega) hbefore s' rfl
      have hlen : page.rows.length = pageSize := by
        rw [hrows, List.length_map, List.length_take_of_le hfull]
      refine ⟨page :: pages, last, s₂, .page hnext hwalks, hover, ?_, ?_, ?_⟩
      · rw [List.flatMap_cons, hrows, hflat, ← List.map_append, List.take_append_drop]
      · cases pages with
        | nil => simp
        | cons second more =>
          rw [List.dropLast_cons_cons, List.forall_mem_cons]
          exact ⟨hlen, hlast⟩
      · rw [List.forall_mem_cons]
        exact ⟨by omega, hall⟩

/-! ## Whole walks -/

theorem countSelect_of_served (hname : q.table = T.name) (hgroup : q.groupBy = [])
    (h : T.ServedBy db q pageSize idColumn) (s : Session σ) :
    ∃ s', db.countSelect q (some idColumn) s = (.ok (T.matching q).length, s') := by
  have hgrouped : q.isGrouped = false := by simp [SelectQuery.isGrouped, hgroup]
  have hcounts : db.Counts q ((some idColumn).getD db.settings.idColumn) (T.matching q).length := by
    intro server
    obtain ⟨row, more, server', hfetch, hrow⟩ := h.count server
    exact ⟨row, more, server', hfetch,
      (Table.counts_countStatement_iff hgrouped hname _ _ row).1 hrow⟩
  obtain ⟨s', hcount, -⟩ := Database.countSelect_of_counts hgrouped hcounts s
  exact ⟨s', hcount⟩

theorem start_of_served {id : Option String} (hid : idColumn = id.getD db.settings.idColumn)
    (hname : q.table = T.name) (hgroup : q.groupBy = []) (hsize : 0 < pageSize)
    (h : T.ServedBy db (q.forPages idColumn) pageSize idColumn) (s : Session σ) :
    ∃ s', SeekPages.start db q pageSize id s =
      (.ok (SeekPages.unread q idColumn hsize (T.matching q).length), s') := by
  subst hid
  have hgrouped : q.isGrouped = false := by simp [SelectQuery.isGrouped, hgroup]
  obtain ⟨s', hcount⟩ :=
    countSelect_of_served (q := q.forPages (id.getD db.settings.idColumn)) hname hgroup h s
  have hpaged : PagedQuery.start db (q.forPages (id.getD db.settings.idColumn)) pageSize
      (some (id.getD db.settings.idColumn)) s =
        (.ok ⟨q.forPages (id.getD db.settings.idColumn), pageSize, (T.matching q).length, hsize⟩,
          s') := by
    rw [PagedQuery.start, dif_pos hsize, Run.bind_of_ok hcount]
    rfl
  refine ⟨s', ?_⟩
  rw [SeekPages.start, hgrouped, if_neg (by decide)]
  exact Run.bind_of_ok hpaged

theorem exists_sorted (hunique : T.Unique q.orderBy idColumn)
    (hid : baseColumn idColumn ∈ SeekCursor.names q.orderBy) (hall : T.Shows db q)
    (s : Session σ) : ∃ records : List ρ, records.Perm (T.matching q) ∧
      records.Pairwise (fun a b => T.precedes q.orderBy a b = true) := by
  obtain ⟨rows, s', -, records, hpassing, hsorted, -⟩ := hall s
  have hperm : records.Perm (T.matching q) := Table.passing_clauseOf q ▸ hpassing
  refine ⟨records, hperm, ?_⟩
  have hnodup : (T.matching q).Nodup := (hunique.nodup hid).filter _
  exact hunique.pairwise_precedes hid
    (fun r hr => Table.mem_records_of_matching (hperm.mem_iff.1 hr)) (hperm.nodup_iff.2 hnodup)
    hsorted

theorem fetch_all (hq : Walkable T db q pageSize idColumn) (hlimit : q.limit = none)
    (hoffset : q.offset = none) {records : List ρ} (hperm : records.Perm (T.matching q))
    (hsorted : records.Pairwise fun a b => T.precedes q.orderBy a b = true) (s : Session σ) :
    (db.fetch q s).1 = .ok (records.map T.row) := by
  obtain ⟨rows, s', hfetch, hrows⟩ := hq.served.all.shows hq.named hq.ungrouped s
  have heq := hq.sortable.isUnique.eq_of_isResult hq.id_mem rfl hrows hperm hsorted
  rw [hlimit, hoffset, Table.window, Option.getD_none, List.drop_zero] at heq
  rw [hfetch, heq]

/-- A walk from the first page on comes to an end without an error, and its pages make up the result
of the whole query: each record that matches once, in order. All pages but the last are full. -/
theorem walks_all {id : Option String} (hname : q.table = T.name) (hgroup : q.groupBy = [])
    (hlimit : q.limit = none) (hoffset : q.offset = none) (hsize : 0 < pageSize)
    (hid : idColumn = id.getD db.settings.idColumn)
    (hT : T.Sortable (SeekPages.resolve q.orderBy idColumn) idColumn)
    (hdb : T.ServedBy db (q.forPages idColumn) pageSize idColumn) (s : Session σ) :
    ∃ p s₁ pages last s₂, ∃ records : List ρ, SeekPages.start db q pageSize id s = (.ok p, s₁) ∧
      Walks db (SeekWalk.start p none, s₁) pages (last, s₂) ∧ last.exhausted = true ∧
      records.Perm (T.matching q) ∧
      records.Pairwise (fun a b =>
        T.precedes (SeekPages.resolve q.orderBy idColumn) a b = true) ∧
      (∀ key s', (SeekPages.read db key true (p, s')).1 = .ok (records.map T.row)) ∧
      pages.flatMap SeekPage.rows = records.map T.row ∧
      (∀ page ∈ pages.dropLast, page.rows.length = pageSize) ∧
      ∀ page ∈ pages, 0 < page.rows.length ∧ page.rows.length ≤ pageSize := by
  have hq : Walkable T db (q.forPages idColumn) pageSize idColumn :=
    ⟨hT, SeekPages.id_mem_names_resolve _ _, hname, hgroup, hdb, hsize⟩
  obtain ⟨p, s₁, hstart, hreads, hcount⟩ : ∃ p s₁, SeekPages.start db q pageSize id s =
      (.ok p, s₁) ∧ p.Reads (q.forPages idColumn) pageSize ∧
        p.paged.resultCount = (T.matching q).length := by
    obtain ⟨s₁, hstart⟩ := start_of_served hid hname hgroup hsize hdb s
    exact ⟨_, s₁, hstart, SeekPages.reads_unread q idColumn hsize _, rfl⟩
  obtain ⟨records, hperm, hsorted⟩ := exists_sorted hT.isUnique hq.id_mem
    (hdb.all.shows hq.named hq.ungrouped) s
  have hall : ∀ key s', (SeekPages.read db key true (p, s')).1 = .ok (records.map T.row) := by
    intro key s'
    rw [SeekPages.read_all, hreads.query]
    exact fetch_all hq hlimit hoffset hperm hsorted s'
  by_cases hnone : p.paged.resultCount = 0
  -- An empty result is over before the first step, so `Before` does not hold at its start.
  · have hnil : records = [] := by
      rw [← List.length_eq_zero_iff, hperm.length_eq]
      exact hcount.symm.trans hnone
    have hover : (SeekWalk.start p none).exhausted = true := by simp [SeekWalk.start, hnone]
    exact ⟨p, s₁, [], _, s₁, records, hstart, .done (next_of_exhausted db hover s₁), hover, hperm,
      hsorted, hall, by simp [hnil], by simp, by simp⟩
  · have hbefore : Before T (q.forPages idColumn) pageSize [] records (SeekWalk.start p none) :=
      ⟨hreads, hnone, by simp [SeekWalk.start, hnone], hsorted, hperm, .inl ⟨rfl, rfl⟩⟩
    obtain ⟨pages, last, s₂, hwalks, hover, hflat, hlast, hpages⟩ := walks_of_before hq hbefore s₁
    exact ⟨p, s₁, pages, last, s₂, records, hstart, hwalks, hover, hperm, hsorted, hall, hflat,
      hlast, hpages⟩

end SeekWalk

/-! ## A database that reads what it is sent -/

namespace Table

variable {ρ : Type} {K : String → Type} [∀ column, LinearOrder (K column)]

/-- The records in the order of a list of columns and directions. -/
def sorted (T : Table ρ K) (ordering : OrderBy) (records : List ρ) : List ρ :=
  records.insertionSort fun a b => T.precedes ordering b a = false

theorem perm_sorted (T : Table ρ K) (ordering : OrderBy) (records : List ρ) :
    (T.sorted ordering records).Perm records :=
  List.perm_insertionSort _ records

theorem pairwise_sorted (T : Table ρ K) (ordering : OrderBy) (records : List ρ) :
    (T.sorted ordering records).Pairwise fun a b => T.precedes ordering b a = false := by
  have htotal : Std.Total fun a b => T.precedes ordering b a = false :=
    ⟨fun a b => precedes_total a b⟩
  have htrans : IsTrans ρ fun a b => T.precedes ordering b a = false :=
    ⟨fun a b c hab hbc => not_precedes_trans hbc hab⟩
  exact List.pairwise_insertionSort _ records

/-- The answer to a statement, by its text and its values: to one that counts or, if it begins with
the given text, to a SELECT. -/
def answer (T : Table ρ K) (dialect : Dialect) (head : String) (statement : Statement) : List Row :=
  match (Reader.counting dialect).whole? statement with
  | some parts => [[(parts.name, .ofNat (T.passing parts.clause).length)]]
  | none =>
    match (Reader.select dialect head).whole? statement with
    | some parts =>
      (window parts.limit parts.offset (T.sorted parts.orderBy (T.passing parts.clause))).map T.row
    | none => []

/-- A database that holds a table and nothing else. -/
def database (T : Table ρ K) (dialect : Dialect) (head : String) : Database Unit where
  backend :=
    { dialect
      fetch := fun statement => pure (T.answer dialect head statement)
      execute := fun _ => pure ⟨0, none⟩
      describe := fun _ => pure [] }
  settings := ⟨100, 100, "id"⟩
  modifiers := .empty

variable {T : Table ρ K} {dialect : Dialect} {head : String} {q : SelectQuery}

theorem answer_statement (hcount : Sql.incomparable "SELECT COUNT(" (q.head dialect) = true) :
    T.answer dialect (q.head dialect) (q.statement dialect) =
      (window q.limit q.offset (T.sorted q.orderBy (T.matching q))).map T.row := by
  have hsql := q.statement_sql dialect
  have hskip : Reader.skip "SELECT COUNT(" (.ofStatement (q.statement dialect)) = none := by
    rw [Sql.Unread.ofStatement, hsql, String.append_assoc, String.toList_append]
    exact Sql.skip_of_not_prefix (Sql.not_prefix_of_incomparable hcount _) 1 _
  have hnone : (Reader.counting dialect).whole? (q.statement dialect) = none := by
    rw [Reader.whole?, Reader.counting, Reader.bind_of_none hskip]
  rw [answer, hnone, q.whole?_statement dialect]
  simp only [SelectQuery.parts, passing_clauseOf]

theorem answer_countStatement (hgroup : q.isGrouped = false) (idColumn : String) :
    T.answer dialect head (q.countStatement dialect idColumn) =
      [[(countColumn, .ofNat (T.matching q).length)]] := by
  rw [answer, SelectQuery.whole?_countStatement hgroup dialect idColumn]
  simp only [passing_clauseOf]

section

variable (hcount : Sql.incomparable "SELECT COUNT(" head = true) (hhead : head = q.head dialect)
include hcount hhead

theorem fetch_database (s : Session Unit) : ∃ s', (T.database dialect head).fetch q s =
    (.ok ((window q.limit q.offset (T.sorted q.orderBy (T.matching q))).map T.row), s') := by
  subst hhead
  exact ⟨_, congrArg (fun rows => (Except.ok rows, _)) (answer_statement hcount)⟩

theorem serves_database (hname : q.table = T.name) (hgroup : q.groupBy = []) :
    T.Serves (T.database dialect head) head (q.statement dialect) := by
  subst hhead
  refine fun _ => ⟨_, (), rfl, (answers_statement_iff hname hgroup dialect _).2 ?_⟩
  rw [IsResult, SelectQuery.parts, passing_clauseOf]
  exact ⟨_, T.perm_sorted _ _, T.pairwise_sorted _ _, answer_statement hcount⟩

/-- Such a database serves any query on the table that it holds. -/
theorem servedBy_database (hname : q.table = T.name) (hgroup : q.groupBy = []) (pageSize : Nat)
    (idColumn : String) : T.ServedBy (T.database dialect head) q pageSize idColumn where
  count _ := by
    have hgrouped : q.isGrouped = false := by simp [SelectQuery.isGrouped, hgroup]
    have hanswer : T.answer dialect head (q.countStatement dialect idColumn) = _ :=
      answer_countStatement hgrouped idColumn
    refine ⟨_, [], (), congrArg (fun rows => (Except.ok rows, ())) hanswer, ?_⟩
    exact (counts_countStatement_iff hgrouped hname dialect idColumn _).2 rfl
  all := by
    subst hhead
    exact serves_database hcount rfl hname hgroup
  page := by
    intro p cursor page hreads hpage
    obtain ⟨htable, hgroupBy, hpageHead⟩ := hreads.page_shows hpage
    subst hhead
    exact serves_database hcount (hpageHead dialect).symm (htable.trans hname)
      (hgroupBy.trans hgroup)

end

end Table

/-! ### A table of three items -/

namespace Table

def itemRow (id : Int) : Row := [("id", .num (.int id))]

/-- Three items that are their own ids; a test compares the id, whatever column it names. -/
def ofItems : Table Int fun _ => Int where
  name := "items"
  records := [3, 1, 2]
  row := itemRow
  truth id atom :=
    match atom.test with
    | .compare op (.int value) => op.compares id value
    | .member negated [] => negated
    | _ => false
  truth_member _ _ _ := rfl
  key id _ := id

def itemQuery : SelectQuery := (SelectQuery.ofTable "items").forPages "id"

def itemOrder : OrderBy := [("main.id", .asc)]

def itemDatabase : Database Unit := ofItems.database .sqlite (itemQuery.head .sqlite)

theorem servedBy_items : ofItems.ServedBy itemDatabase itemQuery 2 "id" :=
  servedBy_database (by decide +kernel) rfl rfl rfl 2 "id"

theorem mem_items {id : Int} (h : id ∈ ofItems.records) : 1 ≤ id ∧ id ≤ 3 := by
  have hall : ∀ id ∈ ofItems.records, 1 ≤ id ∧ id ≤ 3 := by decide
  exact hall id h

theorem forall_mem_itemOrder {P : String × SortOrder → Prop} (h : P ("main.id", .asc)) :
    ∀ entry ∈ itemOrder, P entry := by
  intro entry hentry
  obtain rfl : entry = ("main.id", .asc) := by simpa [itemOrder] using hentry
  exact h

theorem binds_item {id : Int} {value : Bound} (h : ofItems.Binds id "main.id" value) :
    value = .int id := by
  obtain ⟨v, hv, hvalue⟩ := h
  obtain rfl : Json.num (.int id) = v := Option.some.inj hv
  cases hvalue
  rfl

theorem sortable_items : ofItems.Sortable itemOrder "id" where
  distinct := by decide
  unique := forall_mem_itemOrder fun _ => by decide
  bindable id hid := forall_mem_itemOrder (by
    obtain ⟨hlow, hhigh⟩ := mem_items hid
    have hmax : id ≤ Decimal.maxSigned64 := by
      simp only [Decimal.maxSigned64, Nat.pow_eq]
      omega
    exact ⟨.int id, .num (.int id), rfl, .int hmax⟩)
  readsBack id hid c hc := by
    obtain ⟨hlow, hhigh⟩ := mem_items hid
    obtain ⟨-, rfl⟩ := SeekCursor.ofRow_eq_ok_iff.1 hc
    refine (SeekCursor.parse_token_eq_ok_iff_of_nodup (Fields.nodup_keys_ofList _)).2 ?_
    have hread : (Json.num (.int id)).reread? = some (.num (.int id)) := by
      rw [Json.reread?_num, Number.reread?_int (by omega) (by omega)]
      rfl
    exact .cons ⟨rfl, hread⟩ .nil
  compares id _ other _ := forall_mem_itemOrder fun value hvalue op => by
    rw [binds_item hvalue]
    rfl

theorem walks_all_items : ∃ p s₁ pages last,
    SeekPages.start itemDatabase (.ofTable "items") 2 none (.start ()) = (.ok p, s₁) ∧
      SeekWalk.Walks itemDatabase (SeekWalk.start p none, s₁) pages last ∧
      pages.flatMap SeekPage.rows = [1, 2, 3].map itemRow := by
  obtain ⟨p, s₁, pages, last, s₂, records, hstart, hwalks, -, hperm, hsorted, -, hflat, -⟩ :=
    @SeekWalk.walks_all _ _ _ _ ofItems itemDatabase (.ofTable "items") 2 "id" none rfl rfl rfl
      rfl (by decide) rfl sortable_items servedBy_items (.start ())
  have hthree : [1, 2, 3].Perm (ofItems.matching (.ofTable "items")) := by decide
  have hordered : [1, 2, 3].Pairwise fun a b => ofItems.precedes itemOrder b a = false := by decide
  have hrecords : records = [1, 2, 3] :=
    sortable_items.isUnique.eq_of_perm (by decide) (by decide) (hperm.trans hthree.symm)
      (hsorted.imp precedes_asymm) hordered
  rw [hrecords] at hflat
  exact ⟨p, s₁, pages, (last, s₂), hstart, hwalks, hflat⟩

end Table
end FilterSql

import Mathlib.Data.Rat.Floor
import FilterSql.Proofs.Paging.Reading
import FilterSql.Proofs.Query.Values

/-!
# FilterSql.Proofs.Paging.Numbered

Pages by number cut the result of a query into parts.

* `PagedQuery.pages_eq_ceil`, `PagedQuery.offset_lt`: the number of pages, and the rows before one.
* `flatten_pageRows`, `length_pageRows`: a list in pages.
* `OffsetPages.read_of_mem`, `OffsetPages.read_of_not_mem`: one reading.
* `OffsetPages.Follows`: readings that go from page to page until there is none to go to.
* `OffsetPages.start_partitions`: the pages that a start gives make up the whole result.
-/

namespace FilterSql

/-! ## Numbers of pages -/

namespace PagedQuery

theorem pages_le_iff (p : PagedQuery) (m : Nat) :
    p.pages ≤ m ↔ p.resultCount ≤ m * p.pageSize := by
  have hpos := p.pageSize_pos
  rw [pages, Nat.div_le_iff_le_mul_add_pred hpos, Nat.mul_comm m]
  omega

theorem pages_eq_ceil (p : PagedQuery) :
    p.pages = ⌈(p.resultCount : ℚ) / p.pageSize⌉₊ := by
  have hpos : (0 : ℚ) < p.pageSize := Nat.cast_pos.2 p.pageSize_pos
  refine eq_of_forall_ge_iff fun m => ?_
  rw [pages_le_iff, Nat.ceil_le, div_le_iff₀ hpos]
  exact_mod_cast Iff.rfl

/-- A page begins in front of a row, or else it is the one page of no rows. -/
theorem offset_lt (p : PagedQuery) {page : Nat} (h : page ≤ max p.pages 1) :
    (page - 1) * p.pageSize < max p.resultCount 1 := by
  have hle := p.pages_le_iff (page - 1)
  rcases Nat.lt_or_ge page 2 with hfirst | hlater
  · have hzero : page - 1 = 0 := by omega
    rw [hzero, Nat.zero_mul]
    omega
  · omega

end PagedQuery

/-! ## A list in pages -/

section

variable {α : Type}

def pageRows (all : List α) (size page : Nat) : List α := (all.drop ((page - 1) * size)).take size

theorem flatten_pageRows (all : List α) (size m : Nat) :
    ((List.range' 1 m).map (pageRows all size)).flatten = all.take (m * size) := by
  induction m with
  | zero => simp
  | succ m ih =>
    rw [List.range'_1_concat, List.map_append, List.flatten_append, ih, List.map_singleton,
      List.flatten_singleton, pageRows, Nat.add_sub_cancel_left, Nat.succ_mul, List.take_add]

theorem length_pageRows (all : List α) (size page : Nat) :
    (pageRows all size page).length = min size (all.length - (page - 1) * size) := by
  rw [pageRows, List.length_take, List.length_drop]

end

/-! ## One reading -/

namespace OffsetPages

variable {σ : Type} {o : OffsetPages} {page : Nat}

theorem read_of_not_mem (db : Database σ) (h : ¬ (1 ≤ page ∧ page ≤ max o.paged.pages 1))
    (s : Session σ) : read db page false (o, s) =
      (.error (.invalidArgument (.pageOutside (max o.paged.pages 1))), o, s) := by
  have hout : (page < 1 || o.lastPage < page) = true := by
    rw [Bool.or_eq_true, decide_eq_true_eq, decide_eq_true_eq, lastPage]
    omega
  exact read_outside db hout false s

theorem read_of_mem (db : Database σ) (h : 1 ≤ page ∧ page ≤ max o.paged.pages 1)
    (s : Session σ) : read db page false (o, s) =
      match db.fetch (o.pageQuery page) s with
      | (.ok rows, s') => (.ok rows, o.moveTo page, s')
      | (.error e, s') => (.error e, o, s') := by
  have hin : (page < 1 || o.lastPage < page) = false := by
    rw [Bool.or_eq_false_iff, decide_eq_false_iff_not, decide_eq_false_iff_not, lastPage]
    omega
  rw [read_inside db hin, if_neg Bool.false_ne_true, Run.inner_bind]
  rcases db.fetch (o.pageQuery page) s with ⟨_ | rows, s'⟩ <;> rfl

end OffsetPages

/-- The query of one page. -/
def SelectQuery.page (q : SelectQuery) (size page : Nat) : SelectQuery :=
  { q with limit := some size, offset := some ((page - 1) * size) }

/-- The database has the rows of a list for the query: it answers the statement of a page by so many
of them behind the offset. -/
def Database.ServesPages {σ : Type} (db : Database σ) (q : SelectQuery) (size : Nat)
    (all : List Row) : Prop :=
  ∀ offset, offset < max all.length 1 → ∀ server, ∃ server',
    db.backend.fetch
        ({ q with limit := some size, offset := some offset }.statement db.dialect) server =
      (.ok ((all.drop offset).take size), server')

/-! ## From page to page -/

namespace OffsetPages

variable {σ : Type}

/-- Pages are read, the first one by its number and each other one as `step` of the pages read so
far tells, until that is zero. -/
inductive Follows (db : Database σ) (step : OffsetPages → Nat) :
    Nat → OffsetPages × Session σ → List (Nat × List Row) → OffsetPages × Session σ → Prop where
  | done (state : OffsetPages × Session σ) : Follows db step 0 state [] state
  | page {page : Nat} {o o' : OffsetPages} {s s' : Session σ} {rows : List Row}
      {visited : List (Nat × List Row)} {last : OffsetPages × Session σ} :
      page ≠ 0 → read db page false (o, s) = (.ok rows, o', s') →
      Follows db step (step o') (o', s') visited last →
      Follows db step page (o, s) ((page, rows) :: visited) last

variable {db : Database σ} {p : PagedQuery} {all : List Row}

theorem read_of_serves (hall : all.length = p.resultCount)
    (h : db.ServesPages p.query p.pageSize all) {o : OffsetPages} (ho : o.paged = p) {page : Nat}
    (hpage : 1 ≤ page ∧ page ≤ max p.pages 1) (s : Session σ) :
    ∃ s', read db page false (o, s) = (.ok (pageRows all p.pageSize page), o.moveTo page, s') := by
  subst ho
  have hoffset := o.paged.offset_lt hpage.2
  rw [← hall] at hoffset
  obtain ⟨server', hfetch⟩ := h _ hoffset s.server
  have hrows : db.fetch (o.pageQuery page) s =
      (.ok (pageRows all o.paged.pageSize page), (db.fetch (o.pageQuery page) s).2) := by
    simp only [Database.fetch, Database.sendFetch, Session.send, pageQuery, hfetch, pageRows]
  exact ⟨(db.fetch (o.pageQuery page) s).2, by rw [read_of_mem db hpage, hrows]⟩

theorem follows_next (hall : all.length = p.resultCount)
    (h : db.ServesPages p.query p.pageSize all) {o : OffsetPages} (ho : o.paged = p)
    (page count : Nat) (hpage : 1 ≤ page) (hcount : page + count = max p.pages 1)
    (s : Session σ) : ∃ last : OffsetPages × Session σ,
      Follows db next page (o, s)
        ((List.range' page (count + 1)).map fun k => (k, pageRows all p.pageSize k)) last ∧
      last.1.paged = p ∧ last.1.prev = page + count - 1 := by
  -- On the number of the pages to come.
  induction count generalizing o page s with
  | zero =>
    obtain ⟨s', hread⟩ := read_of_serves hall h ho ⟨hpage, by omega⟩ s
    have hnext : (o.moveTo page).next = 0 := by
      rw [moveTo, ho]
      exact if_neg (by omega)
    refine ⟨(o.moveTo page, s'), .page (by omega) hread ?_, ho, rfl⟩
    rw [hnext]
    exact .done _
  | succ count ih =>
    obtain ⟨s', hread⟩ := read_of_serves hall h ho ⟨hpage, by omega⟩ s
    have hnext : (o.moveTo page).next = page + 1 := by
      rw [moveTo, ho]
      exact if_pos (by omega)
    obtain ⟨last, hfollows, hpaged, hprev⟩ :=
      ih (o := o.moveTo page) ho (page + 1) (by omega) (by omega) s'
    refine ⟨last, .page (by omega) hread ?_, hpaged, by omega⟩
    rw [hnext]
    exact hfollows

theorem follows_prev (hall : all.length = p.resultCount)
    (h : db.ServesPages p.query p.pageSize all) {o : OffsetPages} (ho : o.paged = p)
    (page : Nat) (hpage : page ≤ max p.pages 1) (s : Session σ) :
    ∃ first : OffsetPages × Session σ, Follows db prev page (o, s)
      ((List.range' 1 page).map fun k => (k, pageRows all p.pageSize k)).reverse first := by
  induction page generalizing o s with
  | zero => exact ⟨(o, s), .done _⟩
  | succ page ih =>
    obtain ⟨s', hread⟩ := read_of_serves hall h ho ⟨by omega, hpage⟩ s
    obtain ⟨first, hfollows⟩ := ih (o := o.moveTo (page + 1)) ho (by omega) s'
    refine ⟨first, ?_⟩
    rw [List.range'_1_concat, List.map_append, List.reverse_append, Nat.add_comm 1 page]
    exact .page (Nat.succ_ne_zero page) hread hfollows

/-! ## The whole result -/

/-- The pages of a list: together they are the list, and only the last one may be short. Going from
page to page visits them all, forwards from the first and back again from the last. -/
structure InPages (db : Database σ) (p : PagedQuery) (size : Nat) (all : List Row) : Prop where
  flatten : ((List.range' 1 p.pages).map (pageRows all size)).flatten = all
  full : ∀ page, 1 ≤ page → page < p.pages → (pageRows all size page).length = size
  last : 1 ≤ p.pages → 1 ≤ (pageRows all size p.pages).length ∧
    (pageRows all size p.pages).length ≤ size
  read : ∀ (o : OffsetPages) (s : Session σ) (page : Nat), o.paged = p →
    1 ≤ page ∧ page ≤ max p.pages 1 → ∃ s', read db page false (o, s) =
      (.ok (pageRows all size page), o.moveTo page, s')
  walk : ∀ (o : OffsetPages) (s : Session σ), o.paged = p →
    ∃ (visited : List (Nat × List Row)) (last first : OffsetPages × Session σ),
      visited = (List.range' 1 (max p.pages 1)).map (fun k => (k, pageRows all size k)) ∧
      Follows db next 1 (o, s) visited last ∧
      Follows db prev last.1.prev last visited.dropLast.reverse first

/-- Paging by number cuts the `n` rows of a query into pages of `size` rows. -/
structure Partitions (db : Database σ) (q : SelectQuery) (size n : Nat) (p : PagedQuery) :
    Prop where
  pages : p.pages = ⌈(n : ℚ) / size⌉₊
  inside : ∀ (o : OffsetPages) (s : Session σ) (page : Nat), o.paged = p →
    1 ≤ page ∧ page ≤ max p.pages 1 → read db page false (o, s) =
      match db.fetch (q.page size page) s with
      | (.ok rows, s') => (.ok rows, o.moveTo page, s')
      | (.error e, s') => (.error e, o, s')
  outside : ∀ (o : OffsetPages) (s : Session σ) (page : Nat), o.paged = p →
    ¬ (1 ≤ page ∧ page ≤ max p.pages 1) → read db page false (o, s) =
      (.error (.invalidArgument (.pageOutside (max p.pages 1))), o, s)
  /-- The offset of a page is an integer of 64 bits if the number of rows is. -/
  offset : ∀ page, 1 ≤ page ∧ page ≤ max p.pages 1 → (page - 1) * size < max n 1 ∧
    (n ≤ Decimal.max64 → (page - 1) * size ≤ Decimal.max64)
  rows : ∀ all : List Row, all.length = n → db.ServesPages q size all → InPages db p size all

/-- The count of a query and each of its pages read from one source, with the same values. -/
structure SameSource (dialect : Dialect) (q : SelectQuery) (idColumn : String) (size : Nat) :
    Prop where
  values : (q.source dialect).args =
    q.conditions.flatMap (fun c => c.atom.test.values) ++ q.extra.flatMap Sql.Group.values
  count_sql : (q.countStatement dialect idColumn).sql =
    SelectQuery.countHead dialect idColumn ++ (q.source dialect).sql
  count_args : (q.countStatement dialect idColumn).args = (q.source dialect).args
  page_sql : ∀ page, ((q.page size page).statement dialect).sql =
    q.head dialect ++ (q.source dialect).sql ++
      (q.page size page).tail dialect ((q.source dialect).args.length + 1)
  page_args : ∀ page, ((q.page size page).statement dialect).args =
    (q.source dialect).args ++ [.count size, .count ((page - 1) * size)]

theorem sameSource {q : SelectQuery} (hq : q.isGrouped = false) (dialect : Dialect)
    (idColumn : String) (size : Nat) : SameSource dialect q idColumn size where
  values := q.source_args dialect
  count_sql := SelectQuery.countStatement_sql hq dialect idColumn
  count_args := SelectQuery.countStatement_args _ dialect idColumn
  page_sql page := (q.page size page).statement_sql dialect
  page_args page := by
    rw [SelectQuery.statement_args, SelectQuery.source_args, List.append_assoc]
    rfl

theorem length_pageRows_of_lt {p : PagedQuery} (hall : all.length = p.resultCount) {page : Nat}
    (hpage : 1 ≤ page) (h : page < p.pages) :
    (pageRows all p.pageSize page).length = p.pageSize := by
  have hle := p.pages_le_iff page
  have hsucc : page * p.pageSize = (page - 1) * p.pageSize + p.pageSize := by
    rw [← Nat.succ_mul, Nat.succ_eq_add_one, Nat.sub_add_cancel hpage]
  rw [length_pageRows, hall]
  omega

theorem length_pageRows_last {p : PagedQuery} (hall : all.length = p.resultCount)
    (h : 1 ≤ p.pages) : 1 ≤ (pageRows all p.pageSize p.pages).length ∧
      (pageRows all p.pageSize p.pages).length ≤ p.pageSize := by
  have hpos := p.pageSize_pos
  have hle := p.pages_le_iff (p.pages - 1)
  rw [length_pageRows, hall]
  omega

theorem inPages (hall : all.length = p.resultCount)
    (h : db.ServesPages p.query p.pageSize all) : InPages db p p.pageSize all where
  flatten := by
    rw [flatten_pageRows]
    exact List.take_of_length_le (hall ▸ (p.pages_le_iff p.pages).1 (Nat.le_refl _))
  full _ := length_pageRows_of_lt hall
  last := length_pageRows_last hall
  read _ s _ ho hpage := read_of_serves hall h ho hpage s
  walk o s ho := by
    obtain ⟨m, hm⟩ : ∃ m, max p.pages 1 = m + 1 := ⟨max p.pages 1 - 1, by omega⟩
    obtain ⟨last, hnext, hpaged, hprev⟩ :=
      follows_next hall h ho 1 m (Nat.le_refl 1) (by omega) s
    obtain ⟨first, hback⟩ := follows_prev hall h hpaged m (by omega) last.2
    refine ⟨_, last, first, rfl, by rw [hm]; exact hnext, ?_⟩
    have hlast : last.1.prev = m := by omega
    rw [hm, List.range'_1_concat, List.map_append, List.map_singleton, List.dropLast_concat,
      hlast]
    exact hback

theorem partitions (db : Database σ) (p : PagedQuery) :
    Partitions db p.query p.pageSize p.resultCount p where
  pages := p.pages_eq_ceil
  inside o s page ho hpage := by
    subst ho
    exact read_of_mem db hpage s
  outside o s page ho hpage := by
    subst ho
    exact read_of_not_mem db hpage s
  offset page hpage := by
    have hlt := p.offset_lt hpage.2
    have hmax : 1 ≤ Decimal.max64 := by decide
    exact ⟨hlt, fun hn => by omega⟩
  rows _ hall hserves := inPages hall hserves

theorem start_partitions (db : Database σ) {q : SelectQuery} (hq : q.isGrouped = false)
    {size n : Nat} (hsize : 0 < size) {idColumn : Option String}
    (hcount : db.Counts q (idColumn.getD db.settings.idColumn) n) (s : Session σ) :
    ∃ p s', start db q size idColumn s = (.ok p, s') ∧
      s'.calls = s.calls ++
        [.fetch (q.countStatement db.dialect (idColumn.getD db.settings.idColumn))] ∧
      Partitions db q size n p.paged ∧
      SameSource db.dialect q (idColumn.getD db.settings.idColumn) size := by
  obtain ⟨s', hcounted, hcalls⟩ := Database.countSelect_of_counts hq hcount s
  have hpaged : PagedQuery.start db q size idColumn s = (.ok ⟨q, size, n, hsize⟩, s') := by
    rw [PagedQuery.start, dif_pos hsize, Run.bind_of_ok hcounted]
    rfl
  refine ⟨⟨⟨q, size, n, hsize⟩, 0, 0, 0⟩, s', ?_, hcalls, partitions db ⟨q, size, n, hsize⟩,
    sameSource hq _ _ _⟩
  rw [start, Run.bind_of_ok hpaged]
  rfl

/-! ## Three items, two on a page -/

def numberedItems : List Row := [[("id", .ofNat 1)], [("id", .ofNat 2)], [("id", .ofNat 3)]]

/-- Tells limit and offset by the values of a statement; a statement without values counts. -/
def answerItems : List Bound → List Row
  | [.count limit, .count offset] => (numberedItems.drop offset).take limit
  | _ => [[(countColumn, .ofNat 3)]]

/-- The items that are not deleted. -/
def presentItems : SelectQuery :=
  (SelectQuery.ofTable "items").andWhere
    (.all [.atom ⟨.of .qualified "main.deleted_at", .null false⟩])

def itemPages : Database Unit where
  backend :=
    { dialect := .sqlite
      fetch statement := pure (answerItems statement.args)
      execute _ := pure ⟨0, none⟩
      describe _ := pure [] }
  settings := ⟨100, 100, "id"⟩
  modifiers := .empty

theorem start_partitions_items :
    itemPages.Counts presentItems "id" 3 ∧ itemPages.ServesPages presentItems 2 numberedItems ∧
    ∃ p s', start itemPages presentItems 2 none (.start ()) = (.ok p, s') ∧
      s'.calls = [.fetch (presentItems.countStatement .sqlite "id")] ∧
      Partitions itemPages presentItems 2 3 p.paged ∧ SameSource .sqlite presentItems "id" 2 ∧
      InPages itemPages p.paged 2 numberedItems ∧ p.paged.pages = 2 ∧
      pageRows numberedItems 2 2 = [[("id", .ofNat 3)]] := by
  have hcounts : itemPages.Counts presentItems "id" 3 := fun _ => ⟨_, _, _, rfl, rfl⟩
  have hserves : itemPages.ServesPages presentItems 2 numberedItems := fun _ _ _ => ⟨(), rfl⟩
  obtain ⟨p, s', hstart, hcalls, hpartitions, hsource⟩ :=
    @start_partitions Unit itemPages presentItems rfl 2 3 Nat.two_pos none hcounts (.start ())
  refine ⟨hcounts, hserves, p, s', hstart, hcalls, hpartitions, hsource,
    hpartitions.rows numberedItems rfl hserves, ?_, rfl⟩
  cases hstart
  rfl

end OffsetPages
end FilterSql

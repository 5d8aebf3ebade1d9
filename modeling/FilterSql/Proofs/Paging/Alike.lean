import FilterSql.Paging.Offset
import FilterSql.Proofs.Database.Alike
import FilterSql.Proofs.Paging.Cursor
import FilterSql.Proofs.Paging.Reading

/-!
# FilterSql.Proofs.Paging.Alike

Readings of pages over queries that are the same up to values. Sizes and numbers of pages, counts
and cursors may differ.

* `SeekCursor.erased_after`: the rows after a cursor, up to the values of the cursor.
* `OffsetPages.read_alike`, `SeekPages.read_alike`: one reading on either side.
-/

namespace FilterSql

/-! ## Rows after a cursor -/

namespace SeekCursor

theorem erased_branches (equal : List Sql.Clause) (pairs : List ((String × SortOrder) × Bound)) :
    (branches equal pairs).map Sql.Group.erased =
      branches (equal.map Sql.Clause.erased) (pairs.map fun pair => (pair.1, pair.2.erased)) := by
  induction pairs generalizing equal with
  | nil => rfl
  | cons pair rest ih =>
    obtain ⟨⟨column, order⟩, value⟩ := pair
    simp only [branches, List.map_cons, ih, List.map_append, List.map_nil]
    simp [Sql.Group.all, Sql.Group.erased, compare, Sql.Clause.erased, Sql.Atom.erased,
      Sql.Test.erased]

theorem erased_foldl_add (groups : List Sql.Group) (start : Sql.Group) :
    (groups.foldl Sql.Group.add start).erased =
      (groups.map Sql.Group.erased).foldl Sql.Group.add start.erased := by
  induction groups generalizing start with
  | nil => rfl
  | cons group rest ih => rw [List.foldl_cons, ih, Sql.Group.erased_add]; rfl

theorem map_erased_zip (ordering : OrderBy) {values : List Bound}
    (h : values.length = ordering.length) :
    (ordering.zip values).map (fun pair => (pair.1, pair.2.erased)) =
      ordering.map fun entry => (entry, .now) := by
  induction ordering generalizing values with
  | nil => rfl
  | cons entry rest ih =>
    cases values with
    | nil => cases h
    | cons value more =>
      rw [List.zip_cons_cons, List.map_cons, List.map_cons, ih (Nat.succ.inj h)]
      rfl

theorem erased_seekGroup (ordering : OrderBy) {values : List Bound}
    (h : values.length = ordering.length) :
    (seekGroup ordering values).erased =
      (branches [] (ordering.map fun entry => (entry, .now))).foldl Sql.Group.add (.any []) := by
  rw [seekGroup, erased_foldl_add, erased_branches, map_erased_zip ordering h]
  rfl

theorem erased_after {c c' : SeekCursor} {ordering : OrderBy} {group group' : Sql.Group}
    (h : c.after ordering = .ok group) (h' : c'.after ordering = .ok group') :
    group.erased = group'.erased := by
  have hlength : ∀ {c : SeekCursor} {values : List Bound},
      c.bounds (names ordering) = .ok values → values.length = ordering.length := by
    intro c values hv
    rw [← (bounds_eq_ok_iff.1 hv).length_eq, length_names]
  obtain ⟨-, values, hv, rfl⟩ := after_eq_ok_iff.1 h
  obtain ⟨-, values', hv', rfl⟩ := after_eq_ok_iff.1 h'
  -- Without the values the group is made of the columns and their directions alone.
  rw [erased_seekGroup ordering (hlength hv), erased_seekGroup ordering (hlength hv')]

end SeekCursor

/-! ## States with pages -/

def StatesAgree {π π' σ σ' : Type} (P : π → π' → Prop) (t : π × Session σ)
    (t' : π' × Session σ') : Prop :=
  P t.1 t'.1 ∧ t.2.Agree t'.2

theorem Run.Alike.inner {π π' σ σ' α β : Type} {P : π → π' → Prop} {R : α → β → Prop}
    {run : Run (Session σ) α} {run' : Run (Session σ') β} (h : Run.Alike Session.Agree R run run') :
    Run.Alike (StatesAgree P) R (Run.inner run) (Run.inner run') := by
  rintro ⟨p, s⟩ ⟨p', s'⟩ ⟨hp, hs⟩
  have hagree := h s s' hs
  rw [Run.inner_apply, Run.inner_apply]
  simp only
  generalize run s = x, run' s' = x' at hagree
  cases hagree with
  | ok hab hu => exact .ok hab ⟨hp, hu⟩
  | errors e e' hu => exact .errors e e' ⟨hp, hu⟩
  | left he => exact .left he _ _
  | right he => exact .right he _ _

theorem Run.Alike.withOwn {π π' σ σ' α β : Type} {P : π → π' → Prop} {R : α → β → Prop} {p : π}
    {p' : π'} {run : Run (π × Session σ) α} {run' : Run (π' × Session σ') β} (hp : P p p')
    (h : Run.Alike (StatesAgree P) R run run') :
    Run.Alike Session.Agree (fun x x' => R x.1 x'.1) (Run.withOwn p run)
      (Run.withOwn p' run') := by
  intro s s' hs
  have hagree := h (p, s) (p', s') ⟨hp, hs⟩
  unfold Run.withOwn
  generalize run (p, s) = x, run' (p', s') = x' at hagree ⊢
  cases hagree with
  | ok hab hu => exact .ok hab hu.2
  | errors e e' hu => exact .errors e e' hu.2
  | left he => exact .left he _ _
  | right he => exact .right he _ _

variable {σ σ' : Type} {db : Database σ} {db' : Database σ'}

theorem PagedQuery.start_alike (twins : db.BlindTwins db') {q q' : SelectQuery}
    (h : q.erased = q'.erased) (pageSize pageSize' : Nat) (idColumn : Option String) :
    Database.SessionsAlike (fun p p' => p.query.erased = p'.query.erased)
      (start db q pageSize idColumn) (start db' q' pageSize' idColumn) := by
  unfold start
  split
  · split
    · exact Run.Alike.bind (Database.countSelect_alike twins h idColumn) fun _ _ _ =>
        Run.Alike.pure h
    · exact Run.Alike.reject_right _ _
  · exact Run.Alike.reject_left _ _

/-! ## Pages by number -/

namespace OffsetPages

/-- Pages of queries that are the same up to values. -/
def PagesAlike (p p' : OffsetPages) : Prop := p.paged.query.erased = p'.paged.query.erased

theorem start_alike (twins : db.BlindTwins db') {q q' : SelectQuery} (h : q.erased = q'.erased)
    (pageSize pageSize' : Nat) (idColumn : Option String) :
    Database.SessionsAlike PagesAlike (start db q pageSize idColumn)
      (start db' q' pageSize' idColumn) :=
  Run.Alike.bind (PagedQuery.start_alike twins h pageSize pageSize' idColumn) fun _ _ hp =>
    Run.Alike.pure hp

theorem erased_pageQuery {p p' : OffsetPages} (h : PagesAlike p p') (page page' : Nat) :
    (p.pageQuery page).erased = (p'.pageQuery page').erased := by
  have hq : p.paged.query.erased = p'.paged.query.erased := h
  show { p.paged.query.erased with limit := some 0, offset := some 0 } = _
  rw [hq]
  rfl

theorem read_alike (twins : db.BlindTwins db') (page page' : Nat) (all : Bool) :
    Run.Alike (StatesAgree PagesAlike) (fun _ _ => True) (read db page all)
      (read db' page' all) := by
  -- A page outside of the result is refused, which excuses from the rest on either side.
  rintro ⟨p, s⟩ ⟨p', s'⟩ hstates
  cases hin : (page < 1 || p.lastPage < page : Bool) with
  | true => rw [read_outside db hin]; exact .left rfl _ _
  | false =>
    cases hin' : (page' < 1 || p'.lastPage < page' : Bool) with
    | true => rw [read_outside db' hin']; exact .right rfl _ _
    | false =>
      rw [read_inside db hin, read_inside db' hin']
      cases all with
      | true =>
        exact Run.Alike.inner (Database.fetch_alike twins hstates.1) (p, s) (p', s') hstates
      | false =>
        have hfetch := Run.Alike.inner (P := PagesAlike) (Database.fetch_alike twins
          (erased_pageQuery hstates.1 page page')) (p, s) (p', s') hstates
        refine hfetch.bind fun rows rows' u u' _ _ _ hu => ?_
        exact .ok trivial ⟨hstates.1, hu.2⟩

end OffsetPages

/-! ## Pages by cursor -/

namespace SeekPages

/-- Pages of queries that are the same up to values, in one ordering; both have rows. -/
structure PagesAlike (p p' : SeekPages) : Prop where
  query : p.paged.query.erased = p'.paged.query.erased
  ordering : p.ordering = p'.ordering
  left : p.paged.resultCount ≠ 0
  right : p'.paged.resultCount ≠ 0

/-- All of `PagesAlike` but the counts, which the settings do not decide. -/
def StartsAlike (p p' : SeekPages) : Prop :=
  p.paged.query.erased = p'.paged.query.erased ∧ p.ordering = p'.ordering

theorem start_alike (twins : db.BlindTwins db') {q q' : SelectQuery} (h : q.erased = q'.erased)
    (pageSize pageSize' : Nat) (idColumn : Option String) :
    Database.SessionsAlike StartsAlike (start db q pageSize idColumn)
      (start db' q' pageSize' idColumn) := by
  have hgrouped : q.isGrouped = q'.isGrouped := by
    show q.erased.isGrouped = q'.erased.isGrouped
    rw [h]
  have horder : q.orderBy = q'.orderBy := by
    show q.erased.orderBy = q'.erased.orderBy
    rw [h]
  unfold start
  rw [hgrouped, ← twins.settings, horder]
  split
  · exact Run.Alike.fail _ _
  · have hquery : ∀ ordering : OrderBy, ({ q with orderBy := ordering } : SelectQuery).erased =
        ({ q' with orderBy := ordering } : SelectQuery).erased := by
      intro ordering
      show { q.erased with orderBy := ordering } = { q'.erased with orderBy := ordering }
      rw [h]
    refine Run.Alike.bind (PagedQuery.start_alike twins (hquery _) pageSize pageSize' _) ?_
    intro paged paged' hpaged
    exact Run.Alike.pure ⟨hpaged, rfl⟩

theorem request_alike {p p' : SeekPages} (h : PagesAlike p p') {key key' : Option String}
    (hkey : key.isSome = key'.isSome) :
    Alike (fun q q' => q.erased = q'.erased) (p.request key) (p'.request key') := by
  have hpage : ∀ n n' : Nat,
      ({ p.paged.query with limit := some n, offset := none } : SelectQuery).erased =
        ({ p'.paged.query with limit := some n', offset := none } : SelectQuery).erased := by
    intro n n'
    show { p.paged.query.erased with limit := some 0, offset := none } = _
    rw [h.query]
    rfl
  refine .of_rejections request_error request_error fun q q' hq hq' => ?_
  cases key with
  | none =>
    cases key' with
    | none =>
      cases hq
      cases hq'
      exact hpage _ _
    | some key' => cases hkey
  | some key =>
    cases key' with
    | none => cases hkey
    | some key' =>
      obtain ⟨c, group, -, hgroup, rfl⟩ := request_some_eq_ok_iff.1 hq
      obtain ⟨c', group', -, hgroup', rfl⟩ := request_some_eq_ok_iff.1 hq'
      rw [← h.ordering] at hgroup'
      rw [SelectQuery.erased_andWhere, SelectQuery.erased_andWhere, hpage,
        SeekCursor.erased_after hgroup hgroup']

theorem read_page (db : Database σ) {p : SeekPages} (h : p.paged.resultCount ≠ 0)
    (key : Option String) (s : Session σ) :
    read db key false (p, s) =
      (do
        let query ← Run.ofExcept (p.request key)
        let rows ← Run.inner (db.fetch query)
        let next ← Run.ofExcept (p.nextToken rows)
        Run.setOwn (p.moveTo key next)
        return rows : Run (SeekPages × Session σ) (List Row)) (p, s) := by
  cases hq : p.request key with
  | error e => rw [read_of_request_error db h hq]; rfl
  | ok q =>
    rw [read_of_request_ok db h hq, Run.ofExcept_ok, Run.pure_bind, Run.inner_bind]
    rcases db.fetch q s with ⟨_ | rows, s'⟩
    · rfl
    · cases hn : p.nextToken rows <;> simp only [hn] <;> rfl

theorem PagesAlike.moveTo {p p' : SeekPages} (h : PagesAlike p p')
    (key key' next next' : Option String) : PagesAlike (p.moveTo key next) (p'.moveTo key' next') :=
  ⟨h.query, h.ordering, h.left, h.right⟩

theorem read_alike (twins : db.BlindTwins db') {key key' : Option String}
    (hkey : key.isSome = key'.isSome) (all : Bool) :
    Run.Alike (StatesAgree PagesAlike) (fun _ _ => True) (read db key all)
      (read db' key' all) := by
  rintro ⟨p, s⟩ ⟨p', s'⟩ hstates
  obtain ⟨hp, hs⟩ := hstates
  cases all with
  | true =>
    exact Run.Alike.inner (P := PagesAlike) (Database.fetch_alike twins hp.query) (p, s) (p', s')
      ⟨hp, hs⟩
  | false =>
    rw [read_page db hp.left, read_page db' hp.right]
    have hrequest := Run.Alike.ofExcept (S := StatesAgree PagesAlike) (request_alike hp hkey)
      (p, s) (p', s') ⟨hp, hs⟩
    refine hrequest.bind fun q q' t t' _ _ hq ht => ?_
    have hfetch := Run.Alike.inner (P := PagesAlike) (Database.fetch_alike twins hq) t t' ht
    refine hfetch.bind fun rows rows' t t' _ _ _ ht => ?_
    have hnext : Alike (fun _ _ => True) (p.nextToken rows) (p'.nextToken rows') :=
      .of_rejections nextToken_error nextToken_error fun _ _ _ _ => trivial
    refine (Run.Alike.ofExcept (S := StatesAgree PagesAlike) hnext t t' ht).bind
      fun next next' t t' _ _ _ ht => ?_
    exact .ok trivial ⟨hp.moveTo key key' next next', ht.2⟩

end SeekPages
end FilterSql

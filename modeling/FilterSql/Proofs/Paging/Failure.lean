import FilterSql.Proofs.Paging.Cursor
import FilterSql.Proofs.Paging.Reading
import FilterSql.Proofs.Query.Values

/-!
# FilterSql.Proofs.Paging.Failure

Where a walk stands after a page that failed. The cursor of a page is taken off the walk before the
page is asked for, and no way out of a failure puts it back.

* `SeekPages.Reached`, `SeekWalk.Reached`: what readings and steps can lead to.
* `SeekWalk.next_error_restarts`: a walk whose page failed is a walk from the first page on, so it
  keeps its place exactly if that was where it stood.
-/

namespace FilterSql

/-! ## States that can be reached -/

namespace SeekPages

/-- Pages as readings leave them; between two readings the session may be used for other things. -/
inductive Reached {σ : Type} (db : Database σ) : SeekPages → Prop where
  | start {q : SelectQuery} {pageSize : Nat} {idColumn : Option String} {p : SeekPages}
      {s s' : Session σ} : start db q pageSize idColumn s = (.ok p, s') → Reached db p
  | read {p p' : SeekPages} {key : Option String} {all : Bool} {s s' : Session σ}
      {r : Except Error (List Row)} :
      Reached db p → read db key all (p, s) = (r, p', s') → Reached db p'

theorem ordering_of_start {σ : Type} {db : Database σ} {q : SelectQuery} {pageSize : Nat}
    {idColumn : Option String} {p : SeekPages} {s s' : Session σ}
    (h : start db q pageSize idColumn s = (.ok p, s')) :
    p.ordering = resolve q.orderBy (idColumn.getD db.settings.idColumn) := by
  obtain ⟨_, _, rfl, -, -, rfl⟩ := of_start h
  rfl

theorem Reached.ordering_ne_nil {σ : Type} {db : Database σ} {p : SeekPages}
    (h : p.Reached db) : p.ordering ≠ [] := by
  -- A reading leaves the ordering as it is, and at the start the id is in it.
  induction h with
  | start hs => rw [ordering_of_start hs]; exact resolve_ne_nil _ _
  | read _ hr ih =>
    rcases read_pages hr with rfl | ⟨-, next, rfl⟩
    · exact ih
    · exact ih

end SeekPages

namespace SeekWalk

inductive Reached {σ : Type} (db : Database σ) : SeekWalk → Prop where
  | start {p : SeekPages} (cursor : Option String) : p.Reached db → Reached db (start p cursor)
  | next {walk walk' : SeekWalk} {s s' : Session σ} {r : Except Error (Option SeekPage)} :
      Reached db walk → next db (walk, s) = (r, walk', s') → Reached db walk'

/-- What holds of a walk at every step: its pages can be reached, and only the walk through an empty
result is over before it begins. -/
structure Sound {σ : Type} (db : Database σ) (walk : SeekWalk) : Prop where
  pages : walk.pages.Reached db
  counted : walk.exhausted = false → walk.pages.paged.resultCount ≠ 0

theorem Sound.next {σ : Type} {db : Database σ} {walk walk' : SeekWalk} {s s' : Session σ}
    {r : Except Error (Option SeekPage)} (hs : walk.Sound db)
    (h : next db (walk, s) = (r, walk', s')) : walk'.Sound db := by
  rcases next_cases h with ⟨-, -, rfl, -⟩ | ⟨hx, e, -, rfl, -⟩ | ⟨hx, p, -, rfl, hr⟩ |
      ⟨hx, p, rows, -, -, rfl, hr⟩
  · exact hs
  · exact ⟨hs.pages, fun _ => hs.counted hx⟩
  · exact ⟨.read hs.pages hr, fun hend => by cases hend⟩
  · refine ⟨.read hs.pages hr, fun _ => ?_⟩
    rcases SeekPages.read_pages hr with rfl | ⟨-, next, rfl⟩
    · exact hs.counted hx
    · exact hs.counted hx

theorem Reached.sound {σ : Type} {db : Database σ} {walk : SeekWalk} (h : walk.Reached db) :
    walk.Sound db := by
  induction h with
  | start cursor hp => exact ⟨hp, fun hx => by simpa [SeekWalk.start] using hx⟩
  | next _ hn ih => exact ih.next hn

/-! ## Failed pages -/

/-- The statement that the next step sends, or why it sends none. -/
def wanted (dialect : Dialect) (walk : SeekWalk) : Except Error Statement :=
  match walk.pages.request walk.cursor with
  | .error e => .error e
  | .ok q => .ok (q.statement dialect)

def firstStatement (dialect : Dialect) (walk : SeekWalk) : Statement :=
  SelectQuery.statement
    { walk.pages.paged.query with limit := some walk.pages.paged.pageSize, offset := none } dialect

theorem wanted_of_no_cursor {walk : SeekWalk} (dialect : Dialect) (h : walk.cursor = none) :
    walk.wanted dialect = .ok (walk.firstStatement dialect) := by
  rw [wanted, h, SeekPages.request_none]
  rfl

theorem wanted_ne_first {walk : SeekWalk} (dialect : Dialect) (ho : walk.pages.ordering ≠ [])
    (hc : walk.cursor ≠ none) : walk.wanted dialect ≠ .ok (walk.firstStatement dialect) := by
  obtain ⟨key, hkey⟩ := Option.ne_none_iff_exists'.1 hc
  intro h
  simp only [wanted, hkey] at h
  cases hp : SeekCursor.parse key with
  | error e => simp [SeekPages.request, SeekPages.cursor?, hp] at h
  | ok c =>
    rw [SeekPages.request_some_of_parse_ok hp] at h
    cases ha : c.after walk.pages.ordering with
    | error e => simp [SeekPages.pageQuery, ha] at h
    | ok group =>
      obtain ⟨-, values, hb, rfl⟩ := SeekCursor.after_eq_ok_iff.1 ha
      have hlen : values.length = walk.pages.ordering.length := by
        rw [← SeekCursor.length_names]
        exact (SeekCursor.bounds_eq_ok_iff.1 hb).length_eq.symm
      -- If the statements were the same, the cursor would have bound no values.
      have hargs := congrArg (fun st => (st.map Statement.args).toOption) h
      simp [SeekPages.pageQuery, ha, firstStatement, SelectQuery.andWhere, Except.map,
        Except.toOption, SelectQuery.statement_args] at hargs
      exact SeekCursor.seekGroup_values_ne_nil ho hlen hargs

theorem next_calls {σ : Type} {db : Database σ} (walk : SeekWalk) {st : Statement}
    (hx : walk.exhausted = false) (hc : walk.pages.paged.resultCount ≠ 0)
    (hw : walk.wanted db.dialect = .ok st) (s : Session σ) :
    (next db (walk, s)).2.2.calls = s.calls ++ [.fetch st] := by
  cases hq : walk.pages.request walk.cursor with
  | error e => simp [wanted, hq] at hw
  | ok q =>
    simp only [wanted, hq, Except.ok.injEq] at hw
    have hcalls := SeekPages.read_calls_of_request_ok db hc hq s
    rw [hw] at hcalls
    rcases hr : SeekPages.read db walk.cursor false (walk.pages, s) with ⟨e | rows, p, s'⟩
    · rw [hr] at hcalls
      rw [next_of_read_error hx hr]
      exact hcalls
    · rw [hr] at hcalls
      rw [next_of_read_ok hx hr]
      cases rows <;> exact hcalls

/-- After a failure the walk stands at the first page, with the same pages in hand: the statement of
the next step is that of the first page, whatever page has failed. So the walk keeps its place
exactly if it had no cursor. -/
theorem next_error_restarts {σ : Type} {db : Database σ} {walk walk' : SeekWalk}
    {s s' : Session σ} {e : Error} (hr : walk.Reached db)
    (h : next db (walk, s) = (.error e, walk', s')) :
    walk' = SeekWalk.start walk.pages none ∧ walk'.exhausted = false ∧
      (∀ s₂ : Session σ, (next db (walk', s₂)).2.2.calls =
        s₂.calls ++ [.fetch (walk.firstStatement db.dialect)]) ∧
      (walk'.cursor = walk.cursor ↔ walk.cursor = none) ∧
      (walk'.wanted db.dialect = walk.wanted db.dialect ↔ walk.cursor = none) := by
  have hs := hr.sound
  -- Of all that a step can do, only a failed reading gives an error.
  rcases next_cases h with ⟨-, he, -, -⟩ | ⟨hx, e', -, hwalk', -⟩ | ⟨-, p, he, -, -⟩ |
      ⟨-, p, rows, -, he, -, -⟩
  · cases he
  · have hc := hs.counted hx
    have hfirst : walk'.wanted db.dialect = .ok (walk.firstStatement db.dialect) := by
      rw [hwalk']
      exact wanted_of_no_cursor db.dialect rfl
    refine ⟨?_, ?_, ?_, ?_, ?_⟩
    · rw [hwalk', SeekWalk.start, beq_eq_false_iff_ne.2 hc]
    · rw [hwalk']
    · intro s₂
      subst hwalk'
      exact next_calls ⟨walk.pages, none, false⟩ rfl hc hfirst s₂
    · rw [hwalk']
      exact eq_comm
    · rw [hfirst]
      constructor
      · intro hw
        by_contra hne
        exact wanted_ne_first db.dialect hs.pages.ordering_ne_nil hne hw.symm
      · exact fun hnone => (wanted_of_no_cursor db.dialect hnone).symm
  · cases he
  · cases he

/-! ### A walk that is interrupted -/

/-- The walk through the items when the first page has been read. -/
def atSecondPage : SeekWalk :=
  ⟨.moveTo .ofItems none (some SeekPages.firstToken), some SeekPages.firstToken, false⟩

def timedOut : List Answer := [.fail (.backend .poolTimedOut)]

theorem parse_firstToken :
    SeekCursor.parse SeekPages.firstToken = .ok ⟨SeekPages.firstItem⟩ := by
  have htokens : Json.Token.ofText? SeekPages.firstToken.toList =
      some [.openObj, .str (some "id"), .colon, .num (some (.int 1)), .closeObj] := by
    decide +kernel
  rw [SeekCursor.parse, Fields.parse?, Json.Tree.shallow?, htokens]
  rfl

theorem atSecondPage_reached : ∃ s : Session Script, s.server.answers = timedOut ∧
    atSecondPage.Reached (Script.database .sqlite) := by
  obtain ⟨s, hs, hstart⟩ := SeekPages.start_ofItems (.rows [SeekPages.firstItem] :: timedOut)
  obtain ⟨s', hs', hread⟩ := SeekPages.read_ofItems hs
  have hnew : (SeekWalk.start .ofItems none).exhausted = false := rfl
  have hnext : next (Script.database .sqlite) (SeekWalk.start .ofItems none, s) =
      (.ok (some ⟨none, [SeekPages.firstItem], some SeekPages.firstToken⟩), atSecondPage, s') := by
    rw [next_of_read_ok hnew hread]
    rfl
  exact ⟨s', hs', .next (.start none (.start hstart)) hnext⟩

theorem next_atSecondPage {s : Session Script} (h : s.server.answers = timedOut) :
    ∃ s', next (Script.database .sqlite) (atSecondPage, s) =
      (.error (.backend .poolTimedOut), ⟨atSecondPage.pages, none, false⟩, s') := by
  obtain ⟨q, hq⟩ : ∃ q, atSecondPage.pages.request atSecondPage.cursor = .ok q := by
    rw [atSecondPage, SeekPages.request_some_of_parse_ok parse_firstToken]
    exact ⟨_, rfl⟩
  obtain ⟨s', -, hfetch⟩ := Script.fetch_database h q
  have hread := SeekPages.read_of_request_ok (Script.database .sqlite) (by decide) hq s
  rw [hfetch] at hread
  exact ⟨s', next_of_read_error rfl hread⟩

theorem next_error_restarts_second_page :
    (⟨atSecondPage.pages, none, false⟩ : SeekWalk) = SeekWalk.start atSecondPage.pages none ∧
      ∀ s₂ : Session Script,
        (next (Script.database .sqlite) (⟨atSecondPage.pages, none, false⟩, s₂)).2.2.calls =
          s₂.calls ++ [.fetch (atSecondPage.firstStatement .sqlite)] := by
  obtain ⟨s, hs, hreached⟩ := atSecondPage_reached
  obtain ⟨s', hnext⟩ := next_atSecondPage hs
  have h := next_error_restarts hreached hnext
  exact ⟨h.1, h.2.2.1⟩

theorem next_error_loses_place :
    ¬ ∀ (walk walk' : SeekWalk) (s s' : Session Script) (e : Error),
        walk.Reached (Script.database .sqlite) → walk.exhausted = false →
        next (Script.database .sqlite) (walk, s) = (.error e, walk', s') →
        walk'.cursor = walk.cursor ∧ walk'.exhausted = false := by
  intro hkeeps
  obtain ⟨s, hs, hreached⟩ := atSecondPage_reached
  obtain ⟨s', hnext⟩ := next_atSecondPage hs
  have h := hkeeps _ _ _ _ _ hreached rfl hnext
  exact absurd h.1 (by simp [atSecondPage])

end SeekWalk
end FilterSql

import FilterSql.Database.Scripted
import FilterSql.Proofs.Json.ReadBack
import FilterSql.Proofs.Paging.Cursor
import FilterSql.Proofs.Paging.Reading

/-!
# FilterSql.Proofs.Paging.Resuming

Which of the tokens that pages give are accepted when they are passed back.

* `SeekCursor.Resumable`: what the last row of a page has to be for that.
* `SeekCursor.after_token_iff`: the cursor of a row, written and read again.
* `SeekPages.read_lastResult_iff`: a page after the token of another.
-/

namespace FilterSql

/-! ## Values that come back -/

namespace Json

/-- Whether a value in the text of a cursor is read back as one that can be bound. -/
def ComesBack (v : Json) : Prop := ∃ w, v.reread? = some w ∧ w.isBindable = true

theorem comesBack_str (s : String) : (Json.str s).ComesBack := ⟨_, reread?_str s, rfl⟩

theorem comesBack_bool (b : Bool) : (Json.bool b).ComesBack := ⟨_, reread?_bool b, rfl⟩

/-- Of the integers that JSON has here, those of 64 bits with a sign. -/
theorem comesBack_int_iff {n : Int} (hlow : -2 ^ 63 ≤ n) (hhigh : n < 2 ^ 64) :
    (Json.num (.int n)).ComesBack ↔ n ≤ Decimal.maxSigned64 := by
  simp [ComesBack, reread?_num, Number.reread?_int hlow hhigh, isBindable]

theorem not_comesBack_arr (items : List Json) : ¬(Json.arr items).ComesBack := by
  rintro ⟨w, hw, hb⟩
  obtain ⟨others, rfl⟩ := reread?_arr hw
  cases hb

end Json

/-! ## Cursors that come back -/

namespace SeekCursor

/-- A row from which an ordering can be taken up again through the text of its cursor. -/
structure Resumable (row : Row) (ordering : OrderBy) : Prop where
  /-- No two columns have the same name without their aliases. -/
  distinct : (names ordering).Nodup
  values : ∀ name ∈ names ordering, ∃ v, Fields.get? row name = some v ∧ v.ComesBack

theorem parse_token_eq_ok_iff {c back : SeekCursor} :
    parse c.token = .ok back ↔
      ∃ values, Fields.Reread c.values values ∧ back = ⟨Fields.ofList values⟩ := by
  have htext := fun fields => @Fields.parse?_text_eq_some_iff c.values fields
  rw [parse, token]
  cases hp : Fields.parse? c.values.text with
  | none =>
    simp only [hp, reduceCtorEq, false_iff] at htext ⊢
    rintro ⟨values, hvalues, -⟩
    exact htext _ ⟨values, hvalues, rfl⟩
  | some fields =>
    obtain ⟨values, hvalues, rfl⟩ := (htext fields).1 hp
    constructor
    · intro h
      cases h
      exact ⟨values, hvalues, rfl⟩
    · rintro ⟨others, hothers, rfl⟩
      have hfields := (htext _).2 ⟨others, hothers, rfl⟩
      rw [hp, Option.some.injEq] at hfields
      rw [hfields]

theorem parse_token_eq_ok_iff_of_nodup {c back : SeekCursor}
    (hk : (Fields.keys c.values).Nodup) :
    parse c.token = .ok back ↔ Fields.Reread c.values back.values := by
  have hdistinct : ∀ {values}, Fields.Reread c.values values → Fields.ofList values = values := by
    intro values h
    apply Fields.ofList_of_nodup
    have hkeys := h.keys_eq
    rw [Fields.keys] at hkeys
    rwa [hkeys]
  rw [parse_token_eq_ok_iff]
  constructor
  · rintro ⟨values, hvalues, rfl⟩
    show Fields.Reread c.values (Fields.ofList values)
    rwa [hdistinct hvalues]
  · intro h
    exact ⟨back.values, h, by rw [hdistinct h]⟩

theorem resumable_of_after {row : Row} {ordering : OrderBy} {c back : SeekCursor}
    {group : Sql.Group} (hc : ofRow row (names ordering) = .ok c)
    (hp : parse c.token = .ok back) (ha : back.after ordering = .ok group) :
    Resumable row ordering := by
  obtain ⟨hshows, hvalues⟩ := ofRow_eq_ok_iff.1 hc
  obtain ⟨hfits, values, hbounds, -⟩ := after_eq_ok_iff.1 ha
  have hkeys : (Fields.keys c.values).Nodup := by rw [hvalues]; exact Fields.nodup_keys_ofList _
  have hback := (parse_token_eq_ok_iff_of_nodup hkeys).1 hp
  constructor
  · -- A repeated name would leave the cursor with fewer columns than the ordering has.
    have hsize : back.values.length = ordering.length := (fits_iff.1 hfits).1
    have hlen : (Fields.ofList (shown row (names ordering))).length =
        (shown row (names ordering)).length := by
      have hsame := hback.length_eq
      rw [hvalues] at hsame
      rw [hsame, hsize, shown, List.length_map, length_names]
    have hnodup := (Fields.length_ofList_eq_iff _).1 hlen
    rwa [map_fst_shown] at hnodup
  · intro name hname
    obtain ⟨w, hw, hb⟩ := bounds_isOk_iff.1 ⟨values, hbounds⟩ name hname
    obtain ⟨v, hv, -⟩ := hshows name hname
    have hread := hback.get?_eq name
    have hget : Fields.get? c.values name = some v := (get?_ofRow hc hname).trans hv
    have hw' : Fields.get? back.values name = some w := hw
    rw [hget, hw', Option.bind_some] at hread
    exact ⟨v, hv, w, hread.symm, hb⟩

theorem exists_reread_shown {row : Row} {names : List String}
    (h : ∀ name ∈ names, ∃ v, Fields.get? row name = some v ∧ v.ComesBack) :
    ∃ values, Fields.Reread (shown row names) values := by
  induction names with
  | nil => exact ⟨[], .nil⟩
  | cons name rest ih =>
    obtain ⟨values, hvalues⟩ := ih fun other hother => h other (by simp [hother])
    obtain ⟨v, hv, w, hw, -⟩ := h name (by simp)
    exact ⟨(name, w) :: values, .cons ⟨rfl, by simpa [hv] using hw⟩ hvalues⟩

theorem after_of_resumable {row : Row} {ordering : OrderBy} {c : SeekCursor}
    (hc : ofRow row (names ordering) = .ok c) (h : Resumable row ordering) :
    ∃ back group, parse c.token = .ok back ∧ back.after ordering = .ok group := by
  obtain ⟨-, hvalues⟩ := ofRow_eq_ok_iff.1 hc
  have hshown : c.values = shown row (names ordering) := by
    rw [hvalues, Fields.ofList_of_nodup]
    rw [map_fst_shown]
    exact h.distinct
  have hkeys : Fields.keys c.values = names ordering := by
    rw [hshown]
    exact map_fst_shown row (names ordering)
  obtain ⟨values, hback⟩ := exists_reread_shown h.values
  rw [← hshown] at hback
  have hparse : parse c.token = .ok ⟨values⟩ :=
    (parse_token_eq_ok_iff_of_nodup (by rw [hkeys]; exact h.distinct)).2 hback
  have hnames : Fields.keys values = names ordering := hback.keys_eq.trans hkeys
  have hbindable : ∀ field ∈ values, field.2.isBindable = true := by
    rintro ⟨name, w⟩ hfield
    have hname : name ∈ names ordering := hnames ▸ List.mem_map_of_mem hfield
    obtain ⟨v, hv, w', hw', hb⟩ := h.values name hname
    have hget : Fields.get? c.values name = some v := (get?_ofRow hc hname).trans hv
    have hback' : Fields.get? values name = some w :=
      (Fields.get?_eq_some_iff (by rw [hnames]; exact h.distinct)).2 hfield
    rw [hback.get?_eq, hget, Option.bind_some, hw'] at hback'
    cases hback'
    exact hb
  obtain ⟨bound, hafter, -⟩ :=
    exists_after (c := ⟨values⟩) h.distinct (List.Perm.of_eq hnames) hbindable
  exact ⟨⟨values⟩, _, hparse, hafter⟩

/-- The cursor of a row is accepted again exactly if the row is resumable. -/
theorem after_token_iff {row : Row} {ordering : OrderBy} {c : SeekCursor}
    (hc : ofRow row (names ordering) = .ok c) :
    (∃ back group, parse c.token = .ok back ∧ back.after ordering = .ok group) ↔
      Resumable row ordering := by
  constructor
  · rintro ⟨back, group, hp, ha⟩
    exact resumable_of_after hc hp ha
  · exact after_of_resumable hc

end SeekCursor

/-! ## Pages after the token of another -/

namespace SeekPages

theorem read_lastResult {σ : Type} {db : Database σ} {key : Option String} {p p₁ : SeekPages}
    {s s₁ : Session σ} {rows : List Row} {token : String}
    (h : read db key false (p, s) = (.ok rows, p₁, s₁)) (ht : p₁.lastResult = some token) :
    p₁.ordering = p.ordering ∧ p₁.paged = p.paged ∧ p.paged.resultCount ≠ 0 ∧
      p.nextToken rows = .ok (some token) := by
  -- Only a page that was read leaves a token; an empty result and the failures leave none.
  by_cases hc : p.paged.resultCount = 0
  · rw [read_of_empty db key hc] at h
    cases hk : cursor? key <;> rw [hk] at h <;> cases h
    cases ht
  · cases hr : p.request key with
    | error e => rw [read_of_request_error db hc hr] at h; cases h
    | ok q =>
      rw [read_of_request_ok db hc hr] at h
      rcases hf : db.fetch q s with ⟨_ | rows', s'⟩
      · rw [hf] at h; cases h
      · cases hn : p.nextToken rows' with
        | error e => rw [hf] at h; simp only [hn] at h; cases h
        | ok next =>
          rw [hf] at h
          simp only [hn] at h
          cases h
          exact ⟨rfl, rfl, hc, by rw [hn]; exact congrArg _ ht⟩

theorem request_some_isOk_iff {p : SeekPages} {key : String} :
    (∃ q, p.request (some key) = .ok q) ↔
      ∃ back group, SeekCursor.parse key = .ok back ∧ back.after p.ordering = .ok group := by
  constructor
  · rintro ⟨q, hq⟩
    obtain ⟨c, group, hp, ha, -⟩ := request_some_eq_ok_iff.1 hq
    exact ⟨c, group, hp, ha⟩
  · rintro ⟨c, group, hp, ha⟩
    exact ⟨_, request_some_eq_ok_iff.2 ⟨c, group, hp, ha, rfl⟩⟩

/-- The token of a page, passed to pages in the same ordering that are not empty: the next page is
asked for if the last row is resumable, and else the token is refused and nothing happens. -/
theorem read_lastResult_iff {σ : Type} {db : Database σ} {key : Option String}
    {p p₁ : SeekPages} {s s₁ : Session σ} {rows : List Row} {token : String}
    (h : read db key false (p, s) = (.ok rows, p₁, s₁)) (ht : p₁.lastResult = some token) :
    p₁.ordering = p.ordering ∧ p₁.paged.resultCount ≠ 0 ∧
      ∃ row, rows.getLast? = some row ∧
        ∀ {τ : Type} (db' : Database τ) (p' : SeekPages) (s' : Session τ),
          p'.ordering = p.ordering → p'.paged.resultCount ≠ 0 →
          (SeekCursor.Resumable row p.ordering → ∃ statement,
            (read db' (some token) false (p', s')).2.2.calls = s'.calls ++ [.fetch statement]) ∧
          (¬SeekCursor.Resumable row p.ordering → ∃ e, e.isInvalidArgument = true ∧
            read db' (some token) false (p', s') = (.error e, p', s')) := by
  obtain ⟨hordering, hpaged, hcount, hnext⟩ := read_lastResult h ht
  obtain ⟨row, c, hlast, -, hc, rfl⟩ := nextToken_eq_ok_some_iff.1 hnext
  refine ⟨hordering, by rwa [hpaged], row, hlast, ?_⟩
  intro τ db' p' s' ho hcount'
  have haccepted := SeekCursor.after_token_iff hc
  rw [← ho, ← request_some_isOk_iff] at haccepted
  constructor
  · intro hrow
    rw [← ho] at hrow
    obtain ⟨q, hq⟩ := haccepted.2 hrow
    exact ⟨_, read_calls_of_request_ok db' hcount' hq s'⟩
  · intro hrow
    rw [← ho] at hrow
    cases hr : p'.request (some c.token) with
    | ok q => exact absurd (haccepted.1 ⟨q, hr⟩) hrow
    | error e => exact ⟨e, request_error hr, read_of_request_error db' hcount' hr s'⟩

/-! ### Pages that can be resumed, and pages that cannot -/

theorem resumable_firstItem : SeekCursor.Resumable firstItem ofItems.ordering where
  distinct := by decide
  values := by
    intro name hname
    have hnames : SeekCursor.names ofItems.ordering = ["id"] := by decide
    obtain rfl : name = "id" := by simpa [hnames] using hname
    exact ⟨.ofNat 1, rfl, (Json.comesBack_int_iff (by decide) (by decide)).2 (by decide)⟩

theorem read_lastResult_items : ∃ (s : Session Script) (statement : Statement),
    (read (Script.database .sqlite) (some firstToken) false (ofItems, s)).2.2.calls =
      s.calls ++ [.fetch statement] := by
  obtain ⟨s, hs, -⟩ := start_ofItems [.rows [firstItem]]
  obtain ⟨s', -, hread⟩ := read_ofItems hs
  obtain ⟨-, -, row, hrow, haccepted⟩ := read_lastResult_iff hread rfl
  obtain rfl : firstItem = row := by simpa using hrow
  obtain ⟨statement, hcalls⟩ :=
    (haccepted (Script.database .sqlite) ofItems s' rfl (by decide)).1 resumable_firstItem
  exact ⟨s', statement, hcalls⟩

/-- A column in two directions, which is one name for two columns of the ordering. -/
def ofRepeated : SeekPages :=
  ⟨⟨{ SelectQuery.ofTable "items" with
      orderBy := [("main.x", .asc), ("main.x", .desc), ("main.id", .desc)] },
      1, 3, Nat.zero_lt_one⟩,
    [("main.x", .asc), ("main.x", .desc), ("main.id", .desc)], none, none, false⟩

def repeatedRow : Row := [("x", .ofNat 1), ("id", .ofNat 1)]

theorem start_ofRepeated : ∃ s : Session Script, s.server.answers = [.rows [repeatedRow]] ∧
    start (Script.database .sqlite)
        { SelectQuery.ofTable "items" with orderBy := [("x", .asc), ("x", .desc)] } 1 none
        (.ofThree [.rows [repeatedRow]]) = (.ok ofRepeated, s) :=
  ⟨_, rfl, rfl⟩

theorem read_ofRepeated {s : Session Script} (h : s.server.answers = [.rows [repeatedRow]]) :
    ∃ s', read (Script.database .sqlite) none false (ofRepeated, s) =
      (.ok [repeatedRow], ofRepeated.moveTo none (some (SeekCursor.token ⟨repeatedRow⟩)), s') := by
  obtain ⟨s', -, hfetch⟩ := Script.fetch_database h _
  refine ⟨s', ?_⟩
  rw [read_of_request_ok _ (by decide) (request_none ofRepeated), hfetch]
  rfl

theorem read_lastResult_refused :
    ¬ ∀ (q : SelectQuery) (pageSize : Nat) (p p₁ : SeekPages) (s₀ s s₁ : Session Script)
        (rows : List Row) (token : String), q.isGrouped = false →
        start (Script.database .sqlite) q pageSize none s₀ = (.ok p, s) →
        read (Script.database .sqlite) none false (p, s) = (.ok rows, p₁, s₁) →
        p₁.lastResult = some token →
        ∃ statement, (read (Script.database .sqlite) (some token) false (p₁, s₁)).2.2.calls =
          s₁.calls ++ [.fetch statement] := by
  intro haccepts
  obtain ⟨s, hs, hstart⟩ := start_ofRepeated
  obtain ⟨s₁, hread⟩ := read_ofRepeated hs
  obtain ⟨statement, hcalls⟩ := haccepts _ _ _ _ _ _ _ _ _ rfl hstart hread rfl
  obtain ⟨hordering, hcount, row, -, haccepted⟩ := read_lastResult_iff hread rfl
  -- The two directions of `x` share one name, so no row of the result can be resumed.
  have hrow : ¬SeekCursor.Resumable row ofRepeated.ordering := by
    intro h
    exact absurd h.distinct (by decide)
  obtain ⟨e, -, hrefused⟩ :=
    (haccepted (Script.database .sqlite) _ s₁ hordering hcount).2 hrow
  rw [hrefused] at hcalls
  simp at hcalls

end SeekPages
end FilterSql

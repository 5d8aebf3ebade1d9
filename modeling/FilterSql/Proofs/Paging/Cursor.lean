import FilterSql.Paging.Cursor
import FilterSql.Proofs.Filter.Bindable
import FilterSql.Proofs.Json.Fields
import FilterSql.Proofs.Sql.Meaning
import FilterSql.Proofs.Sql.Values

/-!
# FilterSql.Proofs.Paging.Cursor

What a cursor takes from a row, when it fits an ordering, and which rows come after it.

* `SeekCursor.ofRow_eq_ok_iff`: the cursor of a row holds what the row shows.
* `SeekCursor.after_eq_ok_iff`, `SeekCursor.exists_after`: a cursor is accepted if its columns are
  those of the ordering and its values can be bound.
* `SeekCursor.holds_seekGroup`: the rows after a cursor, column by column.
-/

namespace FilterSql
namespace SeekCursor

/-! ## Cursors of rows -/

/-- Whether a row has a value other than NULL in each of some columns. -/
def Shows (row : Row) (names : List String) : Prop :=
  ∀ name ∈ names, ∃ v, Fields.get? row name = some v ∧ v.isNull = false

def shown (row : Row) (names : List String) : List (String × Json) :=
  names.map fun name => (name, (Fields.get? row name).getD .null)

theorem map_fst_shown (row : Row) (names : List String) :
    (shown row names).map Prod.fst = names := by
  simp [shown, Function.comp_def]

theorem ofRowFrom_eq_ok_iff {row : Row} {names : List String} {values : Fields} {c : SeekCursor} :
    ofRowFrom row values names = .ok c ↔
      Shows row names ∧ c = ⟨Fields.insertAll values (shown row names)⟩ := by
  induction names generalizing values with
  | nil =>
    simp only [ofRowFrom, Shows, shown, Fields.insertAll, List.map_nil, List.foldl_nil,
      List.not_mem_nil, false_implies, implies_true, true_and, Except.ok.injEq]
    exact eq_comm
  | cons name rest ih =>
    cases hv : Fields.get? row name with
    | none => simp [ofRowFrom, hv, Shows]
    | some v =>
      by_cases hn : v.isNull = true
      · simp [ofRowFrom, hv, hn, Shows]
      · simp only [ofRowFrom, hv, hn, if_false, Bool.false_eq_true, ih]
        simp [Shows, shown, Fields.insertAll, hv, hn]

theorem ofRow_eq_ok_iff {row : Row} {names : List String} {c : SeekCursor} :
    ofRow row names = .ok c ↔ Shows row names ∧ c = ⟨Fields.ofList (shown row names)⟩ :=
  ofRowFrom_eq_ok_iff

theorem ofRowFrom_error {row : Row} {names : List String} {values : Fields} {e : Error}
    (h : ofRowFrom row values names = .error e) : e.isInvalidArgument = true := by
  induction names generalizing values with
  | nil => cases h
  | cons name rest ih =>
    unfold ofRowFrom at h
    split at h
    · cases h; rfl
    · split at h
      · cases h; rfl
      · exact ih h

theorem get?_ofRow {row : Row} {names : List String} {c : SeekCursor} {name : String}
    (h : ofRow row names = .ok c) (hname : name ∈ names) : c.get? name = Fields.get? row name := by
  obtain ⟨hs, rfl⟩ := ofRow_eq_ok_iff.1 h
  obtain ⟨v, hv, -⟩ := hs name hname
  rw [get?, Fields.ofList_eq_insertAll, shown, Fields.get?_insertAll_map hname, hv]
  rfl

/-! ## Cursors that fit -/

theorem parse_error {text : String} {e : Error} (h : parse text = .error e) :
    e.isInvalidArgument = true := by
  rw [parse] at h
  split at h
  · cases h
  · cases h
    rfl

theorem length_names (ordering : OrderBy) : (names ordering).length = ordering.length :=
  List.length_map _

theorem fits_iff {c : SeekCursor} {ordering : OrderBy} :
    c.fits ordering = true ↔
      c.size = ordering.length ∧ ∀ name ∈ names ordering, (c.get? name).isSome := by
  simp [fits]

theorem bounds_cons {c : SeekCursor} {name : String} {v : Json} (hv : c.get? name = some v)
    (hn : v.isNull = false) (rest : List String) :
    c.bounds (name :: rest) =
      match Bound.ofJson name v with
      | .error e => .error e
      | .ok value =>
        match c.bounds rest with
        | .error e => .error e
        | .ok values => .ok (value :: values) := by
  -- NULL has a case of its own; all other values go the same way.
  rw [bounds, hv, Option.getD_some]
  cases v with
  | null => simp [Json.isNull] at hn
  | _ => rfl

theorem bounds_cons_of_unbindable {c : SeekCursor} {name : String} (rest : List String)
    (h : ∀ v, c.get? name = some v → v.isBindable = false) :
    ∃ e, c.bounds (name :: rest) = .error e ∧ e.isInvalidArgument = true := by
  cases hv : c.get? name with
  | none => exact ⟨.invalidArgument (.cursorNull name), by simp [bounds, hv], rfl⟩
  | some v =>
    by_cases hn : v.isNull = true
    · have hnull : v = .null := by cases v <;> simp_all [Json.isNull]
      exact ⟨.invalidArgument (.cursorNull name), by simp [bounds, hv, hnull], rfl⟩
    · cases hb : Bound.ofJson name v with
      | error e => exact ⟨e, by rw [bounds_cons hv (by simpa using hn), hb], Bound.ofJson_error hb⟩
      | ok value =>
        have := (Bound.ofJson_isOk_iff name).1 ⟨value, hb⟩
        rw [h v hv] at this
        cases this

theorem bounds_cons_eq_ok_iff {c : SeekCursor} {name : String} {rest : List String}
    {values : List Bound} :
    c.bounds (name :: rest) = .ok values ↔
      ∃ v value more, c.get? name = some v ∧ v.BoundAs value ∧
        c.bounds rest = .ok more ∧ values = value :: more := by
  constructor
  · intro h
    by_cases hb : ∃ v, c.get? name = some v ∧ v.isBindable = true
    · obtain ⟨v, hv, hb⟩ := hb
      obtain ⟨value, hvalue⟩ := Json.isBindable_iff.1 hb
      rw [bounds_cons hv hvalue.isNull_eq_false, Bound.ofJson_eq_ok_iff.2 hvalue] at h
      cases hr : c.bounds rest with
      | error e => simp [hr] at h
      | ok more =>
        simp only [hr, Except.ok.injEq] at h
        exact ⟨v, value, more, hv, hvalue, rfl, h.symm⟩
    · push Not at hb
      obtain ⟨e, he, -⟩ := bounds_cons_of_unbindable rest fun v hv => by simpa using hb v hv
      rw [he] at h
      cases h
  · rintro ⟨v, value, more, hv, hvalue, hr, rfl⟩
    rw [bounds_cons hv hvalue.isNull_eq_false, Bound.ofJson_eq_ok_iff.2 hvalue, hr]

theorem bounds_eq_ok_iff {c : SeekCursor} {columns : List String} {values : List Bound} :
    c.bounds columns = .ok values ↔
      List.Forall₂ (fun name value => ∃ v, c.get? name = some v ∧ v.BoundAs value)
        columns values := by
  induction columns generalizing values with
  | nil => cases values <;> simp [bounds]
  | cons name rest ih =>
    rw [bounds_cons_eq_ok_iff]
    constructor
    · rintro ⟨v, value, more, hv, hb, hr, rfl⟩
      exact .cons ⟨v, hv, hb⟩ (ih.1 hr)
    · rintro (_ | ⟨⟨v, hv, hb⟩, hr⟩)
      exact ⟨v, _, _, hv, hb, ih.2 hr, rfl⟩

theorem bounds_isOk_iff {c : SeekCursor} {columns : List String} :
    (∃ values, c.bounds columns = .ok values) ↔
      ∀ name ∈ columns, ∃ v, c.get? name = some v ∧ v.isBindable = true := by
  induction columns with
  | nil => simp [bounds]
  | cons name rest ih =>
    rw [List.forall_mem_cons, ← ih]
    constructor
    · rintro ⟨values, h⟩
      obtain ⟨v, value, more, hv, hb, hr, -⟩ := bounds_cons_eq_ok_iff.1 h
      exact ⟨⟨v, hv, Json.isBindable_iff.2 ⟨value, hb⟩⟩, more, hr⟩
    · rintro ⟨⟨v, hv, hb⟩, more, hr⟩
      obtain ⟨value, hvalue⟩ := Json.isBindable_iff.1 hb
      exact ⟨value :: more, bounds_cons_eq_ok_iff.2 ⟨v, value, more, hv, hvalue, hr, rfl⟩⟩

theorem bounds_error {c : SeekCursor} {columns : List String} {e : Error}
    (h : c.bounds columns = .error e) : e.isInvalidArgument = true := by
  induction columns with
  | nil => simp [bounds] at h
  | cons name rest ih =>
    by_cases hb : ∃ v, c.get? name = some v ∧ v.isBindable = true
    · obtain ⟨v, hv, hb⟩ := hb
      obtain ⟨value, hvalue⟩ := Json.isBindable_iff.1 hb
      rw [bounds_cons hv hvalue.isNull_eq_false, Bound.ofJson_eq_ok_iff.2 hvalue] at h
      cases hr : c.bounds rest with
      | error e' =>
        simp only [hr, Except.error.injEq] at h
        exact ih (h ▸ hr)
      | ok more => simp [hr] at h
    · push Not at hb
      obtain ⟨e', he', hi⟩ := bounds_cons_of_unbindable rest fun v hv => by simpa using hb v hv
      rw [he'] at h
      cases h
      exact hi

/-! ## Rows after a cursor -/

/-- The group of the rows after some values in an ordering. -/
def seekGroup (ordering : OrderBy) (values : List Bound) : Sql.Group :=
  (branches [] (ordering.zip values)).foldl Sql.Group.add (.any [])

theorem after_eq_ok_iff {c : SeekCursor} {ordering : OrderBy} {group : Sql.Group} :
    c.after ordering = .ok group ↔
      c.fits ordering = true ∧
        ∃ values, c.bounds (names ordering) = .ok values ∧ group = seekGroup ordering values := by
  by_cases hf : c.fits ordering = true
  · cases hb : c.bounds (names ordering) with
    | error e => simp [after, hf, hb]
    | ok values => simp [after, hf, hb, seekGroup, eq_comm]
  · simp [after, hf]

theorem after_error {c : SeekCursor} {ordering : OrderBy} {e : Error}
    (h : c.after ordering = .error e) : e.isInvalidArgument = true := by
  by_cases hf : c.fits ordering = true
  · cases hb : c.bounds (names ordering) with
    | error e' =>
      simp only [after, hf, hb, if_true, Except.error.injEq] at h
      subst h
      exact bounds_error hb
    | ok values => simp [after, hf, hb] at h
  · simp only [after, hf, if_false, Bool.false_eq_true, Except.error.injEq] at h
    subst h
    rfl

/-- A cursor with the columns of an ordering, in whatever order, and with values that can be bound
is accepted. -/
theorem exists_after {ordering : OrderBy} {c : SeekCursor} (hdistinct : (names ordering).Nodup)
    (hkeys : (Fields.keys c.values).Perm (names ordering))
    (hvalues : ∀ field ∈ c.values, field.2.isBindable = true) :
    ∃ bound : String → Bound,
      c.after ordering = .ok (seekGroup ordering ((names ordering).map bound)) ∧
        ∀ field ∈ c.values, field.2.BoundAs (bound field.1) := by
  have hnodup : (Fields.keys c.values).Nodup := hkeys.nodup_iff.2 hdistinct
  let bound (name : String) : Bound :=
    ((c.get? name).bind fun v => (Bound.ofJson name v).toOption).getD .now
  have hbound : ∀ field ∈ c.values, field.2.BoundAs (bound field.1) := by
    rintro ⟨name, v⟩ hfield
    obtain ⟨value, hvalue⟩ := Json.isBindable_iff.1 (hvalues _ hfield)
    have hget : c.get? name = some v := (Fields.get?_eq_some_iff hnodup).2 hfield
    have hofJson : Bound.ofJson name v = .ok value := Bound.ofJson_eq_ok_iff.2 hvalue
    simpa only [bound, hget, hofJson, Option.bind_some, Except.toOption, Option.getD_some]
      using hvalue
  refine ⟨bound, after_eq_ok_iff.2 ⟨fits_iff.2 ⟨?_, ?_⟩, _, bounds_eq_ok_iff.2 ?_, rfl⟩, hbound⟩
  · rw [← length_names, ← hkeys.length_eq, Fields.keys, List.length_map, size]
  · exact fun name hname => Fields.isSome_get?_iff.2 (hkeys.mem_iff.2 hname)
  · rw [List.forall₂_map_right_iff, List.forall₂_same]
    intro name hname
    obtain ⟨⟨_, v⟩, hfield, rfl⟩ := List.mem_map.1 (hkeys.mem_iff.2 hname)
    exact ⟨v, (Fields.get?_eq_some_iff hnodup).2 hfield, hbound _ hfield⟩

def columnTest (op : Sql.Comparison) (column : String) (value : Bound) : Sql.Atom :=
  ⟨ColumnRef.of .qualified column, .compare op value⟩

/-- Whether a row, of which `truth` tells the true tests, comes later in the first column in which
it differs from the values. -/
def comesAfter (truth : Sql.Atom → Bool) : List ((String × SortOrder) × Bound) → Bool
  | [] => false
  | ((column, order), value) :: rest =>
    truth (columnTest (later order) column value) ||
      (truth (columnTest .eq column value) && comesAfter truth rest)

theorem any_holds_branches {truth : Sql.Atom → Bool} (equal : List Sql.Clause)
    (pairs : List ((String × SortOrder) × Bound)) :
    (branches equal pairs).any (Sql.Group.holds truth) =
      (Sql.Clause.allHold truth equal && comesAfter truth pairs) := by
  induction pairs generalizing equal with
  | nil => simp [branches, comesAfter]
  | cons pair rest ih =>
    obtain ⟨⟨column, order⟩, value⟩ := pair
    have hlater : (Sql.Group.all (equal ++ [compare (later order) column value])).holds truth =
        (Sql.Clause.allHold truth equal && truth (columnTest (later order) column value)) := by
      simp [Sql.Group.all, Sql.Group.holds, Sql.Clause.allHold_eq_all, compare, Sql.Clause.holds,
        columnTest]
    have hequal : Sql.Clause.allHold truth (equal ++ [compare .eq column value]) =
        (Sql.Clause.allHold truth equal && truth (columnTest .eq column value)) := by
      simp [Sql.Clause.allHold_eq_all, compare, Sql.Clause.holds, columnTest]
    -- The branches of later columns take this column as equal, which comes out as a factor.
    rw [branches, List.any_cons, ih, hlater, hequal, comesAfter, Bool.and_assoc,
      ← Bool.and_or_distrib_left]

theorem holds_seekGroup {truth : Sql.Atom → Bool} (ordering : OrderBy) (values : List Bound) :
    (seekGroup ordering values).holds truth = comesAfter truth (ordering.zip values) := by
  rw [seekGroup, Sql.Group.holds_foldl_add_any, any_holds_branches]
  rfl

/-! ## The values of the group -/

theorem foldl_add_values (branches : List Sql.Group) (group : Sql.Group) :
    (branches.foldl Sql.Group.add group).values =
      group.values ++ branches.flatMap Sql.Group.values := by
  induction branches generalizing group with
  | nil => simp
  | cons branch rest ih => rw [List.foldl_cons, ih, Sql.Group.add_values]; simp

theorem seekGroup_values_ne_nil {ordering : OrderBy} {values : List Bound} (ho : ordering ≠ [])
    (hv : values.length = ordering.length) : (seekGroup ordering values).values ≠ [] := by
  rcases ordering with _ | ⟨⟨column, order⟩, rest⟩
  · exact absurd rfl ho
  · rcases values with _ | ⟨value, more⟩
    · cases hv
    · rw [seekGroup, foldl_add_values]
      simp [branches, Sql.Group.values, Sql.Group.all, Sql.Clause.valuesAll, compare,
        Sql.Clause.values, Sql.Test.values]

end SeekCursor
end FilterSql

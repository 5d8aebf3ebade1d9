import FilterSql.Database.Bulk
import FilterSql.Proofs.Database.Alike

/-!
# FilterSql.Proofs.Database.Bulk

Inserts of rows of the same shape. How the rows are cut into statements depends on the settings and
on the numbers of rows and columns alone, by `chunks_map`.
-/

namespace FilterSql

theorem chunks_map {α β : Type} (f : α → β) (n : Nat) (items : List α) :
    chunks n (items.map f) = (chunks n items).map (List.map f) := by
  induction items using chunks.induct n with
  | case1 => simp [chunks]
  | case2 x rest ih =>
    rw [List.map_cons, chunks, chunks, List.map_cons, ← List.map_drop, ih, List.map_cons,
      List.map_take]

namespace Fields

theorem SameShape.keys_eq {fields fields' : Fields} (h : SameShape fields fields') :
    keys fields = keys fields' := by
  induction h with
  | nil => rfl
  | cons hfield _ ih =>
    simp only [keys, List.map_cons] at ih ⊢
    rw [hfield.1, ih]

theorem SameShape.getD {fields fields' : Fields} (h : SameShape fields fields') (key : String) :
    ((get? fields key).getD .null).SameShape ((get? fields' key).getD .null) := by
  induction h with
  | nil => exact .null
  | @cons field field' rest rest' hfield _ ih =>
    simp only [get?, ← hfield.1]
    by_cases hk : field.1 = key
    · simp only [hk, if_true]
      exact hfield.2
    · simp only [hk, if_false]
      exact ih

end Fields

/-- Rows with the same keys and values of the same shape, row by row. -/
def RowsAlike : List Row → List Row → Prop := List.Forall₂ Fields.SameShape

namespace Database

variable {σ σ' : Type} {db : Database σ} {db' : Database σ'}

/-! ## The plan -/

theorem checkColumns_congr (columns : List String) (index : Nat) {rows rows' : List Row}
    (h : RowsAlike rows rows') :
    checkColumns columns index rows = checkColumns columns index rows' := by
  induction h generalizing index with
  | nil => rfl
  | cons hrow _ ih => simp only [checkColumns, hrow.keys_eq, ih]

theorem cells_cons (row : Row) (column : String) (rest : List String) :
    cells row (column :: rest) = (do
      let value ← Bound.ofCell column ((Fields.get? row column).getD .null)
      let values ← cells row rest
      .ok (value :: values)) := by
  rw [cells]
  cases Bound.ofCell column ((Fields.get? row column).getD .null) with
  | error e => rfl
  | ok value => cases cells row rest <;> rfl

theorem cells_alike {row row' : Row} (h : Fields.SameShape row row') (columns : List String) :
    Alike (fun vs vs' => vs.map (Option.map Bound.erased) = vs'.map (Option.map Bound.erased))
      (cells row columns) (cells row' columns) := by
  induction columns with
  | nil => exact .ok rfl
  | cons column rest ih =>
    rw [cells_cons, cells_cons]
    refine Alike.bind (Bound.ofCell_alike column (h.getD column)) fun v v' hv => ?_
    refine Alike.bind ih fun vs vs' hvs => .ok ?_
    rw [List.map_cons, List.map_cons, hv, hvs]

theorem cellRows_cons (columns : List String) (row : Row) (rest : List Row) :
    cellRows columns (row :: rest) = (do
      let values ← cells row columns
      let more ← cellRows columns rest
      .ok (values :: more)) := by
  rw [cellRows]
  cases cells row columns with
  | error e => rfl
  | ok values => cases cellRows columns rest <;> rfl

/-- The cells of rows with every value erased: only which are NULL is left. -/
def erasedCells (rows : List (List (Option Bound))) : List (List (Option Bound)) :=
  rows.map (List.map (Option.map Bound.erased))

theorem cellRows_alike (columns : List String) {rows rows' : List Row} (h : RowsAlike rows rows') :
    Alike (fun vs vs' => erasedCells vs = erasedCells vs') (cellRows columns rows)
      (cellRows columns rows') := by
  induction h with
  | nil => exact .ok rfl
  | cons hrow _ ih =>
    rw [cellRows_cons, cellRows_cons]
    refine Alike.bind (cells_alike hrow columns) fun vs vs' hvs => ?_
    refine Alike.bind ih fun more more' hmore => .ok ?_
    simp only [erasedCells, List.map_cons] at hmore ⊢
    rw [hvs, hmore]

theorem erased_batches (table : String) (columns : List String) (conflict : Option String)
    (n : Nat) (values : List (List (Option Bound))) :
    ((chunks n values).map fun batch =>
        { InsertQuery.ofTable table columns conflict with rows := batch }).map
          InsertQuery.erased =
      (chunks n (erasedCells values)).map fun batch =>
        { InsertQuery.ofTable table columns conflict with rows := batch } := by
  rw [erasedCells, chunks_map, List.map_map, List.map_map]
  rfl

theorem insertPlan_cons (db : Database σ) (table : String) {first : Row} {rest : List Row}
    (upsert : Bool) (h : (Fields.keys first).isEmpty = false) :
    db.insertPlan table (first :: rest) upsert = (do
      let _ ← checkColumns (Fields.keys first) 0 (first :: rest)
      let values ← cellRows (Fields.keys first) (first :: rest)
      .ok ((chunks (db.settings.batchSize (Fields.keys first).length) values).map fun batch =>
        { InsertQuery.ofTable table (Fields.keys first)
            (if upsert then some db.settings.idColumn else none) with rows := batch })) := by
  simp only [insertPlan, h, Bool.false_eq_true, if_false]
  cases checkColumns (Fields.keys first) 0 (first :: rest) with
  | error e => rfl
  | ok _ => cases cellRows (Fields.keys first) (first :: rest) <;> rfl

theorem insertPlan_alike (twins : db.BlindTwins db') (table : String) {rows rows' : List Row}
    (h : RowsAlike rows rows') (upsert : Bool) :
    Alike (fun plan plan' => plan.map InsertQuery.erased = plan'.map InsertQuery.erased)
      (db.insertPlan table rows upsert) (db'.insertPlan table rows' upsert) := by
  cases h with
  | nil => exact .ok rfl
  | @cons first first' rest rest' hrow hrest =>
    have hrows : RowsAlike (first :: rest) (first' :: rest') := .cons hrow hrest
    cases hk : (Fields.keys first).isEmpty with
    | true => simp only [insertPlan, hk, if_true]; exact .left rfl _
    | false =>
      rw [insertPlan_cons db table upsert hk,
        insertPlan_cons db' table upsert (hrow.keys_eq ▸ hk), ← hrow.keys_eq, ← twins.settings,
        checkColumns_congr _ 0 hrows]
      refine Alike.bind (R := fun _ _ => True) ?_ fun _ _ _ => ?_
      · cases checkColumns (Fields.keys first) 0 (first' :: rest') with
        | error e => exact .errors e e
        | ok u => exact .ok trivial
      · refine Alike.bind (cellRows_alike _ hrows) fun vs vs' hvs => .ok ?_
        rw [erased_batches, erased_batches, hvs]

/-! ## Running it -/

theorem isRefusal_violation (table : String) {e : Error} (h : e.isRefusal = true) :
    (violation table e).isRefusal = true := by
  cases e with
  | backend source =>
    have hs : source = .outOfRange := by
      simpa [Error.isRefusal, Error.isInvalidArgument, Error.isFatal] using h
    subst hs
    exact h
  | _ => exact h

theorem runInserts_alike (twins : db.BlindTwins db') (table : String)
    {plan plan' : List InsertQuery}
    (h : plan.map InsertQuery.erased = plan'.map InsertQuery.erased) (done done' : ExecResult) :
    SessionsAlike (fun _ _ => True) (db.runInserts table done plan)
      (db'.runInserts table done' plan') := by
  induction plan generalizing plan' done done' with
  | nil =>
    cases plan' with
    | nil => exact Run.Alike.pure trivial
    | cons q' rest' => cases h
  | cons q rest ih =>
    cases plan' with
    | nil => cases h
    | cons q' rest' =>
      obtain ⟨hq, hrest⟩ := List.cons.inj h
      rw [runInserts, runInserts, ← show db.dialect = db'.dialect from twins.dialect]
      refine Run.Alike.bind (Run.Alike.mapError (fun _ => isRefusal_violation table)
        (fun _ => isRefusal_violation table) (sendExecute_alike twins
          (InsertQuery.statement_erased_congr hq _))) fun _ _ _ => ?_
      exact ih hrest _ _

theorem insertAll_alike (twins : db.BlindTwins db') (table : String) {rows rows' : List Row}
    (h : RowsAlike rows rows') (upsert : Bool) :
    SessionsAlike (fun _ _ => True) (db.insertAll table rows upsert)
      (db'.insertAll table rows' upsert) := by
  refine Run.Alike.bind (Run.Alike.ofExcept (insertPlan_alike twins table h upsert)) ?_
  intro plan plan' hplan
  exact runInserts_alike twins table hplan _ _

theorem insertRows_alike (twins : db.BlindTwins db') (table : String) {rows rows' : List Row}
    (h : RowsAlike rows rows') :
    SessionsAlike (fun _ _ => True) (db.insertRows table rows) (db'.insertRows table rows') :=
  Run.Alike.bind (insertAll_alike twins table h false) fun _ _ _ => Run.Alike.pure trivial

theorem updateRows_alike (twins : db.BlindTwins db') (table : String) {values values' : Fields}
    (hv : Fields.SameShape values values') {filter filter' : Filter}
    (hf : Fields.SameShape filter filter') :
    SessionsAlike (fun _ _ => True) (db.updateRows table values filter)
      (db'.updateRows table values' filter') :=
  Run.Alike.bind (update_alike twins table hv hf) fun _ _ hq =>
    execute_alike twins (congrArg Query.update hq)

theorem deleteRows_alike (twins : db.BlindTwins db') (table : String) {filter filter' : Filter}
    (h : Fields.SameShape filter filter') :
    SessionsAlike (fun _ _ => True) (db.deleteRows table filter) (db'.deleteRows table filter') :=
  Run.Alike.bind (delete_alike twins table h) fun _ _ hq => execute_alike twins hq

end Database
end FilterSql

import FilterSql.Database.Basic

/-!
# FilterSql.Proofs.Database.Closed

Properties of whatever is made of runs that have them.

* `Run.Closed`: such a property.
* `Run.closed_of_trans`: any preorder between the sessions before and after is one.
* `Database.select_closed`, `Database.update_closed`, `Database.delete_closed`: queries are made of
  the compiling of a filter and of the modifiers, and both of the look-up of a table.
-/

namespace FilterSql

variable {σ α : Type}

namespace Run

/-- A property of whatever is made of runs that have it. -/
structure Closed (P : ∀ {α : Type}, Run (Session σ) α → Prop) : Prop where
  pure : ∀ {α : Type} (a : α), P (pure a : Run (Session σ) α)
  fail : ∀ {α : Type} (e : Error), P (fail e : Run (Session σ) α)
  bind : ∀ {α β : Type} {run : Run (Session σ) α} {next : α → Run (Session σ) β}, P run →
    (∀ a, P (next a)) → P (run >>= next)

theorem Closed.ofExcept {P : ∀ {α : Type}, Run (Session σ) α → Prop} (hP : Closed P)
    (x : Except Error α) : P (ofExcept x : Run (Session σ) α) := by
  cases x with
  | ok a => exact hP.pure a
  | error e => exact hP.fail e

/-- A preorder between the sessions before and after. -/
theorem closed_of_trans {R : Session σ → Session σ → Prop} (hrefl : ∀ s, R s s)
    (htrans : ∀ {s s' s''}, R s s' → R s' s'' → R s s'') :
    Closed fun {_} (run : Run (Session σ) _) => ∀ s, R s (run s).2 where
  pure _ s := hrefl s
  fail _ s := hrefl s
  bind {_ _ run _} h hnext s := by
    have hfirst := h s
    rcases hrun : run s with ⟨e | a, after⟩ <;> rw [hrun] at hfirst
    · rw [bind_of_error hrun]
      exact hfirst
    · rw [bind_of_ok hrun]
      exact htrans hfirst (hnext a after)

end Run

/-! ## Queries -/

namespace Database

variable {db : Database σ} {P : ∀ {α : Type}, Run (Session σ) α → Prop} {table : String}
  {filter : Filter}

theorem compileFilter_closed (hP : Run.Closed P) (hcolumns : P (db.columns table))
    (filter : Filter) (target : ColumnTarget) : P (db.compileFilter table filter target) := by
  refine hP.bind (hP.ofExcept filter.conditions) fun conditions => ?_
  split
  · exact hP.bind hcolumns fun _ => hP.ofExcept _
  · exact hP.ofExcept _

theorem modify_closed (hP : Run.Closed P) (q : Query) (hcolumns : P (db.columns q.table)) :
    P (db.modify q) := by
  unfold modify
  split
  · exact hP.pure q
  · exact hP.bind hcolumns fun _ => hP.ofExcept _

variable (hP : Run.Closed P) (hfilter : ∀ target, P (db.compileFilter table filter target))
  (hmodify : ∀ q : Query, q.table = table → P (db.modify q))

include hP hfilter hmodify

theorem select_closed (columns : Selection) (orderBy : OrderBy) :
    P (db.select table columns filter orderBy) := by
  refine hP.bind (hfilter .qualified) fun conditions => ?_
  exact hP.bind (hmodify _ rfl) fun _ => hP.ofExcept _

theorem update_closed (values : Fields) : P (db.update table values filter) := by
  unfold update
  split
  · exact hP.fail _
  · split
    · exact hP.fail _
    · refine hP.bind (hfilter .unqualified) fun conditions => ?_
      refine hP.bind (hP.ofExcept (assignments values)) fun assignments => ?_
      exact hP.bind (hmodify _ rfl) fun _ => hP.ofExcept _

theorem delete_closed : P (db.delete table filter) := by
  unfold delete
  split
  · exact hP.fail _
  · exact hP.bind (hfilter .unqualified) fun _ => hmodify _ rfl

end Database
end FilterSql

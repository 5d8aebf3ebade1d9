import FilterSql.Database.Basic
import FilterSql.Proofs.Filter.Conditions

/-!
# FilterSql.Proofs.Database.Lazy

The columns of a table are looked up only for a condition on NULL, and nobody can tell from what is
compiled: no other condition asks what the columns accept. Conditions do not depend on one another
either, but for the names of their parameters.

* `compileFrom_of_not_null`: conditions that need not know the columns.
* `compileFrom_append`, `compileFrom_renamed`: lists of conditions in parts.
* `Database.compiles_lazily`: filters compiled with and without the columns.
-/

namespace FilterSql

variable {known : Option TableColumns} {target : ColumnTarget} {used : ParamNames}

/-! ## Columns that do not matter -/

namespace Condition

variable {c : Condition}

theorem equality_of_not_null (h : c.value.isNull = false) (known known' : Option TableColumns)
    (negated : Bool) : c.equality known negated = c.equality known' negated := by
  unfold equality
  cases hv : c.value with
  | null =>
    rw [hv] at h
    cases h
  | _ => rfl

theorem atom_of_not_null (h : c.value.isNull = false) (known known' : Option TableColumns)
    (target : ColumnTarget) : c.atom known target = c.atom known' target := by
  have htest : c.test known = c.test known' := by
    unfold Condition.test
    cases c.operator with
    | eq | ne => exact equality_of_not_null h known known' _
    | _ => rfl
  rw [atom, atom, htest]

end Condition

theorem compileFrom_of_not_null {cs : List Condition} (h : ∀ c ∈ cs, c.value.isNull = false)
    (known known' : Option TableColumns) (target : ColumnTarget) (used : ParamNames) :
    compileFrom known target used cs = compileFrom known' target used cs := by
  induction cs generalizing used with
  | nil => rfl
  | cons c rest ih =>
    obtain ⟨hc, hrest⟩ := List.forall_mem_cons.1 h
    simp only [compileFrom_cons, Condition.atom_of_not_null hc known known', ih hrest]

/-! ## Lists in parts -/

/-- The same but for the names of the parameters. -/
structure CompiledCondition.SameUnnamed (c c' : CompiledCondition) : Prop where
  column : c.column = c'.column
  operator : c.operator = c'.operator
  atom : c.atom = c'.atom
  values : c.params.map NamedParam.values = c'.params.map NamedParam.values

/-- The names that are taken beforehand have a part in the names only. -/
theorem compileFrom_renamed {cs : List Condition} {compiled : List CompiledCondition}
    (h : compileFrom known target used cs = .ok compiled) (used' : ParamNames) :
    ∃ renamed, compileFrom known target used' cs = .ok renamed ∧
      List.Forall₂ CompiledCondition.SameUnnamed compiled renamed := by
  induction cs generalizing used used' compiled with
  | nil =>
    cases h
    exact ⟨[], rfl, .nil⟩
  | cons c rest ih =>
    rw [compileFrom_cons] at h
    obtain ⟨atom, hatom, h⟩ := bind_eq_ok h
    obtain ⟨more, hmore, h⟩ := bind_eq_ok h
    cases h
    obtain ⟨renamed, hrenamed, hsame⟩ := ih hmore (used'.assign c.base c.operator atom.test).2
    refine ⟨⟨c.column, c.operator, atom, (used'.assign c.base c.operator atom.test).1⟩ :: renamed,
      ?_, .cons ⟨rfl, rfl, rfl, ?_⟩ hsame⟩
    · rw [compileFrom_cons, hatom]
      simp only [bind, Except.bind, hrenamed]
    · rw [ParamNames.assign_values, ParamNames.assign_values]

/-- A list is compiled in front of another as it is alone, and the other with some names taken. -/
theorem compileFrom_append {xs : List Condition} {compiled : List CompiledCondition}
    (h : compileFrom known target used xs = .ok compiled) (ys : List Condition) :
    ∃ taken, compileFrom known target used (xs ++ ys) = (do
      let more ← compileFrom known target taken ys
      .ok (compiled ++ more)) := by
  induction xs generalizing used compiled with
  | nil =>
    cases h
    refine ⟨used, ?_⟩
    rw [List.nil_append]
    cases compileFrom known target used ys <;> rfl
  | cons c rest ih =>
    rw [compileFrom_cons] at h
    obtain ⟨atom, hatom, h⟩ := bind_eq_ok h
    obtain ⟨more, hmore, h⟩ := bind_eq_ok h
    cases h
    obtain ⟨taken, htaken⟩ := ih hmore
    refine ⟨taken, ?_⟩
    rw [List.cons_append, compileFrom_cons, hatom]
    simp only [bind, Except.bind, htaken]
    cases compileFrom known target taken ys <;> rfl

/-! ## Filters -/

namespace Database

variable {σ : Type}

theorem compileFilter_of_columns {db : Database σ} {table : String} {columns : TableColumns}
    {s s' : Session σ} (h : db.columns table s = (.ok columns, s')) (filter : Filter)
    (target : ColumnTarget) :
    (db.compileFilter table filter target s).1 = (do
      let conditions ← filter.conditions
      compile conditions (some columns) target) := by
  rw [compileFilter]
  cases hconditions : filter.conditions with
  | error e => rfl
  | ok conditions =>
    rw [Run.ofExcept_ok, Run.pure_bind]
    split
    case isTrue =>
      rw [Run.bind_of_ok h, Run.ofExcept_apply]
      rfl
    case isFalse hnone =>
      have hnotNull : ∀ c ∈ conditions, c.value.isNull = false := by
        simpa [Condition.needsNullability] using hnone
      rw [Run.ofExcept_apply, compile,
        compileFrom_of_not_null hnotNull none (some columns)]
      rfl

/-- What is compiled is what would be with the columns at hand, whether they are looked up or not,
and conditions without NULL never ask for them. A list is compiled as its parts are, and those
behind have no part in the names of those in front. -/
theorem compiles_lazily (db : Database σ) :
    (∀ (table : String) (filter : Filter) (target : ColumnTarget) (columns : TableColumns)
      (s s' : Session σ), db.columns table s = (.ok columns, s') →
      (db.compileFilter table filter target s).1 = (do
        let conditions ← filter.conditions
        compile conditions (some columns) target)) ∧
    (∀ conditions : List Condition, (∀ c ∈ conditions, c.value.isNull = false) →
      ∀ (known known' : Option TableColumns) (target : ColumnTarget),
        compile conditions known target = compile conditions known' target) ∧
    (∀ (xs ys : List Condition) (known : Option TableColumns) (target : ColumnTarget)
      (compiled compiled' : List CompiledCondition), compile xs known target = .ok compiled →
      compile ys known target = .ok compiled' →
      ∃ more, compile (xs ++ ys) known target = .ok (compiled ++ more) ∧
        List.Forall₂ CompiledCondition.SameUnnamed compiled' more) := by
  refine ⟨fun table filter target columns s s' h => compileFilter_of_columns h filter target,
    fun conditions h known known' target => compileFrom_of_not_null h known known' target [],
    fun xs ys known target compiled compiled' hxs hys => ?_⟩
  obtain ⟨taken, htaken⟩ := compileFrom_append hxs ys
  obtain ⟨more, hmore, hsame⟩ := compileFrom_renamed hys taken
  refine ⟨more, ?_, hsame⟩
  rw [compile, htaken, hmore]
  rfl

/-! ### A table of readings -/

/-- A level may be NULL, an id may not. -/
def readings : Database Unit where
  backend :=
    { dialect := .sqlite
      fetch _ := pure []
      execute _ := pure ⟨0, none⟩
      describe _ := pure [⟨"id", false⟩, ⟨"level", true⟩] }
  settings := ⟨1, 100, "id"⟩
  modifiers := .empty

def readingColumns : TableColumns := ⟨"readings", [⟨"id", false⟩, ⟨"level", true⟩]⟩

def fromOne : Condition := ⟨"id >=", "id", .ge, .ofNat 1⟩

def upToFive : Condition := ⟨"id <=", "id", .le, .ofNat 5⟩

theorem compiles_lazily_readings :
    (readings.compileFilter "readings" [("level", .null)] .qualified (.start ())).1 =
      compile [⟨"level", "level", .eq, .null⟩] (some readingColumns) .qualified ∧
    compile [fromOne] none .qualified = compile [fromOne] (some readingColumns) .qualified ∧
    ∃ first second renamed, compile [fromOne] none .qualified = .ok [first] ∧
      compile [upToFive] none .qualified = .ok [second] ∧
      compile [fromOne, upToFive] none .qualified = .ok [first, renamed] ∧
      second.SameUnnamed renamed := by
  obtain ⟨hlazy, hknown, hlocal⟩ := compiles_lazily readings
  obtain ⟨s, hcolumns⟩ : ∃ s, readings.columns "readings" (.start ()) = (.ok readingColumns, s) :=
    ⟨_, rfl⟩
  have hnotNull : ∀ c ∈ [fromOne], c.value.isNull = false := by
    simp [fromOne, Json.ofNat, Json.isNull]
  refine ⟨hlazy _ _ _ _ _ _ hcolumns, hknown _ hnotNull _ _ _, ?_⟩
  obtain ⟨first, hfirst⟩ : ∃ first, compile [fromOne] none .qualified = .ok [first] := ⟨_, rfl⟩
  obtain ⟨second, hsecond⟩ : ∃ second, compile [upToFive] none .qualified = .ok [second] :=
    ⟨_, rfl⟩
  obtain ⟨more, hmore, hsame⟩ := hlocal _ _ _ _ _ _ hfirst hsecond
  obtain ⟨renamed, rest, hrenamed, hrest, rfl⟩ := List.forall₂_cons_left_iff.1 hsame
  obtain rfl := List.forall₂_nil_left_iff.1 hrest
  exact ⟨first, second, renamed, hfirst, hsecond, hmore, hrenamed⟩

end Database
end FilterSql

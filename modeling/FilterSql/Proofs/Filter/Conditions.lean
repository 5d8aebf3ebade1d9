import FilterSql.Filter.Compile
import FilterSql.Proofs.Filter.Bindable
import Mathlib.Data.List.Forall2

/-!
# FilterSql.Proofs.Filter.Conditions

Conditions one by one: each comes from one entry of the filter, and is compiled on its own.

* `Filter.forall₂_of_conditions`, `forall₂_of_compileFrom`: what each one comes from.
* `Condition.equality_eq_ok_iff`, `Condition.order_eq_ok_iff`, `Condition.pattern_eq_ok_iff`,
  `Condition.range_eq_ok_iff`: the tests that operators make of values.
* `Condition.test_of_ok`: a test for NULL needs a column that is known to accept it, and no other
  test depends on what is known.
* `Condition.test_nothing_iff`: the conditions that exclude nothing.
-/

namespace FilterSql

theorem exists_mem_of_forall₂ {α β : Type} {R : α → β → Prop} {as : List α} {bs : List β}
    (h : List.Forall₂ R as bs) {a : α} (ha : a ∈ as) : ∃ b ∈ bs, R a b := by
  induction h with
  | nil => cases ha
  | @cons _ b _ bs hab _ ih =>
    rcases List.mem_cons.1 ha with rfl | ha
    · exact ⟨b, List.mem_cons_self, hab⟩
    · obtain ⟨b', hb', hab'⟩ := ih ha
      exact ⟨b', List.mem_cons_of_mem _ hb', hab'⟩

theorem Condition.eq_of_parse {key : String} {value : Json} {c : Condition}
    (h : Condition.parse key value = .ok c) :
    c = ⟨key, (Operator.splitKey key).1, (Operator.splitKey key).2, value⟩ := by
  simp only [parse] at h
  split at h
  · cases h
  · cases h
    rfl

theorem Filter.forall₂_of_conditions {filter : Filter} {conditions : List Condition}
    (h : filter.conditions = .ok conditions) :
    List.Forall₂ (fun field c => Condition.parse field.1 field.2 = .ok c) filter conditions := by
  induction filter generalizing conditions with
  | nil =>
    cases h
    exact .nil
  | cons entry rest ih =>
    rw [Filter.conditions] at h
    split at h
    case h_1 => cases h
    case h_2 c hc =>
      split at h
      case h_1 => cases h
      case h_2 cs hcs =>
        cases h
        exact .cons hc (ih hcs)

/-- The values that are bound for a test, those of each parameter together. -/
def Sql.Test.parameters : Sql.Test → List (List Bound)
  | .compare _ value => [[value]]
  | .like _ pattern => [[.text pattern]]
  | .member _ values => [values]
  | .between _ low high => [[low], [high]]
  | .null _ => []

theorem ParamNames.assign_values (used : ParamNames) (base : String) (op : Operator)
    (test : Sql.Test) :
    (used.assign base op test).1.map NamedParam.values = test.parameters := by
  cases test <;> rfl

theorem compileFrom_cons (known : Option TableColumns) (target : ColumnTarget) (used : ParamNames)
    (c : Condition) (rest : List Condition) :
    compileFrom known target used (c :: rest) = (do
      let atom ← c.atom known target
      let compiled ←
        compileFrom known target (used.assign c.base c.operator atom.test).2 rest
      .ok (⟨c.column, c.operator, atom, (used.assign c.base c.operator atom.test).1⟩ ::
        compiled)) := by
  rw [compileFrom]
  cases c.atom known target with
  | error e => rfl
  | ok atom =>
    simp only [bind, Except.bind]
    cases compileFrom known target (used.assign c.base c.operator atom.test).2 rest <;> rfl

/-- What a condition is compiled to, but for the names of the parameters. -/
structure Condition.CompilesTo (known : Option TableColumns) (target : ColumnTarget)
    (c : Condition) (compiled : CompiledCondition) : Prop where
  column : compiled.column = c.column
  operator : compiled.operator = c.operator
  atom : c.atom known target = .ok compiled.atom
  values : compiled.params.map NamedParam.values = compiled.atom.test.parameters

theorem forall₂_of_compileFrom {known : Option TableColumns} {target : ColumnTarget}
    {used : ParamNames} {conditions : List Condition} {compiled : List CompiledCondition}
    (h : compileFrom known target used conditions = .ok compiled) :
    List.Forall₂ (Condition.CompilesTo known target) conditions compiled := by
  induction conditions generalizing used compiled with
  | nil =>
    cases h
    exact .nil
  | cons c rest ih =>
    rw [compileFrom_cons] at h
    obtain ⟨atom, hatom, h⟩ := bind_eq_ok h
    obtain ⟨more, hmore, h⟩ := bind_eq_ok h
    cases h
    exact .cons ⟨rfl, rfl, hatom, ParamNames.assign_values _ _ _ _⟩ (ih hmore)

/-- Only a NULL in the filter makes the columns matter. -/
theorem Filter.any_needsNullability {filter : Filter} {conditions : List Condition}
    (h : filter.conditions = .ok conditions) :
    conditions.any Condition.needsNullability = filter.any fun field => field.2.isNull := by
  have hparse := Filter.forall₂_of_conditions h
  clear h
  induction hparse with
  | nil => rfl
  | cons hc _ ih => rw [List.any_cons, List.any_cons, ih, Condition.eq_of_parse hc]; rfl

/-! ## Tests of conditions -/

def Json.isScalar : Json → Bool
  | .null | .arr _ => false
  | _ => true

theorem Json.null_or_arr_or_scalar (v : Json) :
    v = .null ∨ (∃ items, v = .arr items) ∨ v.isScalar = true := by
  cases v with
  | null => exact .inl rfl
  | arr items => exact .inr (.inl ⟨items, rfl⟩)
  | _ => exact .inr (.inr rfl)

namespace Condition

variable {c : Condition} {known : Option TableColumns} {test : Sql.Test} {negated : Bool}

theorem atom_of_ok {target : ColumnTarget} {a : Sql.Atom} (h : c.atom known target = .ok a) :
    ∃ test, c.test known = .ok test ∧ a = ⟨ColumnRef.of target c.column, test⟩ := by
  unfold atom at h
  split at h
  case h_1 => cases h
  case h_2 test htest =>
    cases h
    exact ⟨test, htest, rfl⟩

theorem equality_of_scalar (known : Option TableColumns) {c : Condition}
    (h : c.value.isScalar = true) (negated : Bool) :
    c.equality known negated = (do
      let value ← Bound.ofJson c.column c.value
      .ok (.compare (if negated then .ne else .eq) value)) := by
  unfold equality
  cases hv : c.value with
  | null => rw [hv] at h; cases h
  | arr items => rw [hv] at h; cases h
  | _ => simp only; cases Bound.ofJson c.column _ <;> rfl

theorem order_of_scalar {c : Condition} (h : c.value.isScalar = true) (op : Sql.Comparison) :
    c.order op = (do
      let value ← Bound.ofJson c.column c.value
      .ok (.compare op value)) := by
  unfold order
  cases hv : c.value with
  | null => rw [hv] at h; cases h
  | arr items => rw [hv] at h; cases h
  | _ => simp only; cases Bound.ofJson c.column _ <;> rfl

/-- What equality compares with: a value, the members of a list, or NULL. -/
theorem equality_eq_ok_iff : c.equality known negated = .ok test ↔
    (∃ b, Bound.ofJson c.column c.value = .ok b ∧
        test = .compare (if negated then .ne else .eq) b) ∨
      (∃ items values, c.value = .arr items ∧ Bound.ofItems c.column items = .ok values ∧
        test = .member negated values) ∨
      (c.value = .null ∧ (known.bind fun t => t.acceptsNull? c.base) = some true ∧
        test = .null negated) := by
  rcases c.value.null_or_arr_or_scalar with hv | ⟨items, hv⟩ | hs
  · cases haccepts : known.bind fun t => t.acceptsNull? c.base with
    | none => simp [equality, hv, haccepts, Bound.ofJson]
    | some accepts => cases accepts <;> simp [equality, hv, haccepts, Bound.ofJson, eq_comm]
  · cases hb : Bound.ofItems c.column items <;> simp [equality, hv, hb, Bound.ofJson, eq_comm]
  · rw [equality_of_scalar known hs]
    constructor
    · intro h
      obtain ⟨b, hb, h⟩ := bind_eq_ok h
      cases h
      exact .inl ⟨b, hb, rfl⟩
    · rintro (⟨b, hb, rfl⟩ | ⟨items, -, hv, -⟩ | ⟨hv, -⟩)
      · rw [hb]
        rfl
      · rw [hv] at hs
        cases hs
      · rw [hv] at hs
        cases hs

theorem order_eq_ok_iff {op : Sql.Comparison} : c.order op = .ok test ↔
    ∃ b, Bound.ofJson c.column c.value = .ok b ∧ test = .compare op b := by
  rcases c.value.null_or_arr_or_scalar with hv | ⟨items, hv⟩ | hs
  · simp [order, hv, Bound.ofJson]
  · simp [order, hv, Bound.ofJson]
  · rw [order_of_scalar hs]
    constructor
    · intro h
      obtain ⟨b, hb, h⟩ := bind_eq_ok h
      cases h
      exact ⟨b, hb, rfl⟩
    · rintro ⟨b, hb, rfl⟩
      rw [hb]
      rfl

theorem pattern_eq_ok_iff : c.pattern negated = .ok test ↔
    ∃ s, (c.value = .str s ∨ ∃ n, c.value = .num n ∧ s = n.text) ∧ test = .like negated s := by
  cases hv : c.value <;> simp [pattern, hv, eq_comm]

theorem range_eq_ok_iff : c.range negated = .ok test ↔
    ∃ low high l h, c.value = .arr [low, high] ∧ Bound.ofJson c.column low = .ok l ∧
      Bound.ofJson c.column high = .ok h ∧ test = .between negated l h := by
  rw [range]
  split
  case h_1 low high hv =>
    rw [hv]
    cases hl : Bound.ofJson c.column low with
    | error e => simp [hl]
    | ok l => cases hh : Bound.ofJson c.column high <;> simp [hl, hh, eq_comm]
  case h_2 hno =>
    simp only [reduceCtorEq, false_iff]
    rintro ⟨low, high, -, -, hv, -⟩
    exact hno low high hv

/-- Only a test for NULL depends on what is known of the table. -/
theorem test_of_ok (h : c.test known = .ok test) :
    (∃ negated, test = .null negated) ∧
        (known.bind fun t => t.acceptsNull? c.base) = some true ∨
      c.test none = .ok test ∧ ∀ negated, test ≠ .null negated := by
  unfold Condition.test at h ⊢
  split at h
  case h_1 | h_2 =>
    obtain ⟨b, hb, rfl⟩ | ⟨items, values, hv, hb, rfl⟩ | ⟨-, haccepts, rfl⟩ :=
      equality_eq_ok_iff.1 h
    · exact .inr ⟨equality_eq_ok_iff.2 (.inl ⟨b, hb, rfl⟩), nofun⟩
    · exact .inr ⟨equality_eq_ok_iff.2 (.inr (.inl ⟨items, values, hv, hb, rfl⟩)), nofun⟩
    · exact .inl ⟨⟨_, rfl⟩, haccepts⟩
  case h_3 | h_4 | h_5 | h_6 =>
    obtain ⟨b, -, rfl⟩ := order_eq_ok_iff.1 h
    exact .inr ⟨h, nofun⟩
  case h_7 | h_8 =>
    obtain ⟨s, -, rfl⟩ := pattern_eq_ok_iff.1 h
    exact .inr ⟨h, nofun⟩
  case h_9 | h_10 =>
    obtain ⟨low, high, l, h', -, -, -, rfl⟩ := range_eq_ok_iff.1 h
    exact .inr ⟨h, nofun⟩

/-- Not to be a member of nothing excludes nothing. -/
theorem test_nothing_iff (h : c.test known = .ok test) :
    test = .member true [] ↔ c.operator = .ne ∧ c.value = .arr [] := by
  have hnil {items : List Json} {values : List Bound}
      (hb : Bound.ofItems c.column items = .ok values) : values = [] ↔ items = [] := by
    rw [← List.length_eq_zero_iff, ← (Bound.ofItems_eq_ok_iff.1 hb).length_eq,
      List.length_eq_zero_iff]
  unfold Condition.test at h
  split at h
  case h_1 hop =>
    obtain ⟨b, -, rfl⟩ | ⟨items, values, -, -, rfl⟩ | ⟨-, -, rfl⟩ := equality_eq_ok_iff.1 h <;>
      simp [hop]
  case h_2 hop =>
    obtain ⟨b, hb, rfl⟩ | ⟨items, values, hv, hb, rfl⟩ | ⟨hv, -, rfl⟩ := equality_eq_ok_iff.1 h
    · have hv : c.value ≠ .arr [] := by
        intro hv
        rw [hv] at hb
        cases hb
      simp [hv]
    · simp [hop, hv, hnil hb]
    · simp [hv]
  case h_3 hop | h_4 hop | h_5 hop | h_6 hop =>
    obtain ⟨b, -, rfl⟩ := order_eq_ok_iff.1 h
    simp [hop]
  case h_7 hop | h_8 hop =>
    obtain ⟨s, -, rfl⟩ := pattern_eq_ok_iff.1 h
    simp [hop]
  case h_9 hop | h_10 hop =>
    obtain ⟨low, high, l, h', -, -, -, rfl⟩ := range_eq_ok_iff.1 h
    simp [hop]

end Condition
end FilterSql

import FilterSql.Proofs.Paging.Table
import FilterSql.Proofs.Sql.Precedence

/-!
# FilterSql.Proofs.Sql.Tests

What the tests of a clause say of the values of a column, NULL among them.

* `Sql.Domain`: the values of a column in their order, and the patterns that they match.
* `Sql.Test.eval`: the value of a test; of NULL most tests are unknown.
* `Sql.Test.IsIdle`: the tests that are true of whatever the column may hold, by
  `Sql.Test.eval_of_isIdle` and `Sql.Test.exists_not_true`.
* `Sql.Atom.valueIn`: the value of a test in a row.
-/

namespace FilterSql
namespace Sql

structure Domain (V : Type) [LinearOrder V] where
  of : Bound → V
  like : V → String → Bool

variable {V : Type} [LinearOrder V] {D : Domain V}

namespace Test

/-- A test of a value other than NULL. -/
def passes (D : Domain V) : Test → V → Bool
  | .compare op value, v => op.compares v (D.of value)
  | .like negated pattern, v => D.like v pattern != negated
  | .member negated values, v => values.any (fun value => v = D.of value) != negated
  | .between negated low high, v => (D.of low ≤ v && v ≤ D.of high) != negated
  | .null negated, _ => negated

def eval (D : Domain V) (test : Test) : Option V → Option Bool
  | some v => some (test.passes D v)
  | none =>
    match test with
    | .null negated => some !negated
    | .member negated [] => some negated
    | _ => none

/-- The tests that are true of all values, and of NULL if the column accepts it. -/
def IsIdle (D : Domain V) (nullable : Bool) (test : Test) : Prop :=
  test = .member true [] ∨ nullable = false ∧ ∀ v, test.passes D v = true

theorem eval_nothing (D : Domain V) (negated : Bool) (v : Option V) :
    (Test.member negated []).eval D v = some negated := by
  cases v <;> simp [eval, passes]

variable {nullable : Bool} {test : Test}

theorem eval_of_isIdle (h : test.IsIdle D nullable) {v : Option V}
    (hv : v = none → nullable = true) : test.eval D v = some true := by
  obtain rfl | ⟨hplain, hpasses⟩ := h
  · exact eval_nothing D true v
  · cases v with
    | none =>
      rw [hv rfl] at hplain
      cases hplain
    | some w => rw [eval, hpasses w]

/-- NULL passes one other test, which is true of nothing else. -/
theorem exists_not_true (h : ¬ test.IsIdle D nullable) :
    ∃ v : Option V, (v = none → nullable = true) ∧ test.eval D v ≠ some true := by
  obtain ⟨hnothing, hfails⟩ := not_or.1 h
  cases nullable with
  | false =>
    obtain ⟨v, hv⟩ : ∃ v, test.passes D v = false := by simpa using hfails
    exact ⟨some v, nofun, by simp [eval, hv]⟩
  | true =>
    rcases test with op | like | ⟨_ | _, _ | _⟩ | between | ⟨_ | _⟩
    case null.false => exact ⟨some (D.of (.int 0)), nofun, nofun⟩
    case member.true.nil => exact (hnothing rfl).elim
    all_goals exact ⟨none, fun _ => rfl, nofun⟩

end Test

/-! ## Rows -/

variable {V : String → Type} [∀ column, LinearOrder (V column)]

/-- What a test says of a row. -/
def Atom.valueIn (D : ∀ column, Domain (V column)) (row : ∀ column, Option (V column))
    (a : Atom) : Option Bool :=
  a.test.eval (D a.column.name) (row a.column.name)

theorem decided_valueIn (D : ∀ column, Domain (V column)) (row : ∀ column, Option (V column))
    (a : Atom) : decided (fun a => a.valueIn D row) a = a.valueIn D row := by
  obtain ⟨column, op | like | ⟨negated, _ | _⟩ | between | null⟩ := a
  case member.nil => exact (Test.eval_nothing _ negated _).symm
  all_goals rfl

end Sql

/-- A reference names the column without its alias, whether it keeps the alias or not. -/
theorem ColumnRef.name_of (target : ColumnTarget) (column : String) :
    (ColumnRef.of target column).name = baseColumn column := by
  unfold ColumnRef.of baseColumn
  cases Text.cutFirst? (· == '.') column.toList <;> cases target <;> rfl

end FilterSql

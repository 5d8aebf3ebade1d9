import FilterSql.Proofs.Paging.Cursor
import FilterSql.Proofs.Sql.Tests
import Mathlib.Data.Fintype.Card
import Mathlib.Order.Fin.Tuple
import Mathlib.Order.PiLex

/-!
# FilterSql.Proofs.Paging.Lexicographic

The rows after a cursor are those that are greater than it in the lexicographic order on the tuples
of the ordering, where a descending column counts the other way round.

* `OrderBy.Tuple`, `OrderBy.tuple`: what a row shows in the columns of an ordering.
* `OrderBy.tuple_cons_lt_iff`: their order, column by column.
* `SeekCursor.comesAfter_iff_lt`: the tests of a cursor follow that order.
* `SeekCursor.after_lex`: so does the condition that is written.
-/

namespace FilterSql

/-! ## Tuples -/

namespace SortOrder

/-- The values of a column in a direction: where it descends, the greater ones come first. -/
def Along : SortOrder → Type → Type
  | .asc, α => α
  | .desc, α => αᵒᵈ

instance linearOrderAlong {α : Type} [LinearOrder α] :
    (order : SortOrder) → LinearOrder (order.Along α)
  | .asc => inferInstanceAs (LinearOrder α)
  | .desc => inferInstanceAs (LinearOrder αᵒᵈ)

def along {α : Type} : (order : SortOrder) → α → order.Along α
  | .asc, x => x
  | .desc, x => OrderDual.toDual x

theorem along_injective {α : Type} (order : SortOrder) :
    Function.Injective (order.along (α := α)) := by
  cases order with
  | asc => exact fun _ _ h => h
  | desc => exact OrderDual.toDual.injective

end SortOrder

theorem SeekCursor.compares_later {α : Type} [LinearOrder α] (order : SortOrder) (x y : α) :
    (later order).compares x y = decide (order.along y < order.along x) := by
  cases order <;> rfl

namespace OrderBy

variable {V : String → Type}

/-- The values of the columns of an ordering, each in its direction. -/
def Tuple (V : String → Type) (ordering : OrderBy) : Type :=
  Lex (∀ i : Fin ordering.length, (ordering.get i).2.Along (V (baseColumn (ordering.get i).1)))

def tuple (ordering : OrderBy) (values : ∀ column, V column) : ordering.Tuple V :=
  toLex fun i => (ordering.get i).2.along (values (baseColumn (ordering.get i).1))

variable [∀ column, LinearOrder (V column)]

/-- The lexicographic order. -/
noncomputable instance (ordering : OrderBy) : LinearOrder (ordering.Tuple V) :=
  inferInstanceAs (LinearOrder (Lex (∀ i : Fin ordering.length,
    (ordering.get i).2.Along (V (baseColumn (ordering.get i).1)))))

theorem not_tuple_nil_lt (x y : ∀ column, V column) : ¬ tuple [] x < tuple [] y := by
  rintro ⟨i, -⟩
  exact i.elim0

/-- Tuples are compared by the first column, and by the others where it is the same. -/
theorem tuple_cons_lt_iff (column : String) (order : SortOrder) (rest : OrderBy)
    (x y : ∀ column, V column) :
    tuple ((column, order) :: rest) x < tuple ((column, order) :: rest) y ↔
      order.along (x (baseColumn column)) < order.along (y (baseColumn column)) ∨
        x (baseColumn column) = y (baseColumn column) ∧ tuple rest x < tuple rest y := by
  have hfirst : order.along (x (baseColumn column)) = order.along (y (baseColumn column)) ↔
      x (baseColumn column) = y (baseColumn column) := order.along_injective.eq_iff
  rw [← hfirst]
  let values (z : ∀ column, V column) (i : Fin (rest.length + 1)) :=
    tuple ((column, order) :: rest) z i
  show Pi.Lex (· < ·) (· < ·) (values x) (values y) ↔ _
  rw [← Fin.cons_self_tail (values x), ← Fin.cons_self_tail (values y)]
  exact Fin.pi_lex_lt_cons_cons (· < ·)

end OrderBy

/-! ## Conditions -/

namespace SeekCursor

variable {V : String → Type} [∀ column, LinearOrder (V column)]

theorem comesAfter_iff_lt (D : ∀ column, Sql.Domain (V column)) (row : ∀ column, V column)
    (bound : String → Bound) (ordering : OrderBy) :
    comesAfter (fun a => a.test.passes (D a.column.name) (row a.column.name))
        (ordering.zip ((names ordering).map bound)) = true ↔
      ordering.tuple (fun column => (D column).of (bound column)) < ordering.tuple row := by
  induction ordering with
  | nil => simp [names, comesAfter, OrderBy.not_tuple_nil_lt]
  | cons entry rest ih =>
    obtain ⟨column, order⟩ := entry
    have htest (op : Sql.Comparison) (value : Bound) :
        (columnTest op column value).test.passes (D (columnTest op column value).column.name)
            (row (columnTest op column value).column.name) =
          op.compares (row (baseColumn column)) ((D (baseColumn column)).of value) := by
      rw [columnTest, ColumnRef.name_of]
      rfl
    have heq (x y : V (baseColumn column)) : Sql.Comparison.eq.compares x y = true ↔ y = x := by
      rw [Sql.Comparison.compares, decide_eq_true_eq, eq_comm]
    rw [names, List.map_cons, List.map_cons, List.zip_cons_cons, comesAfter, ← names,
      OrderBy.tuple_cons_lt_iff, ← ih, Bool.or_eq_true, Bool.and_eq_true, htest, htest,
      compares_later, decide_eq_true_eq, heq]

/-- The condition of a cursor is true of a row whose tuple is greater than that of the cursor, and
false of every other, that of the cursor among them. The cursor need not come from a row. -/
theorem after_lex {ordering : OrderBy} {c : SeekCursor} (hdistinct : (names ordering).Nodup)
    (hkeys : (Fields.keys c.values).Perm (names ordering))
    (hvalues : ∀ field ∈ c.values, field.2.isBindable = true) :
    ∃ (group : Sql.Group) (bound : String → Bound), c.after ordering = .ok group ∧
      (∀ field ∈ c.values, field.2.BoundAs (bound field.1)) ∧
      ∀ {V : String → Type} [∀ column, LinearOrder (V column)]
        (D : ∀ column, Sql.Domain (V column)) (row : ∀ column, V column),
        let value := group.predicate.eval fun a => a.valueIn D fun column => some (row column)
        let cursor := ordering.tuple fun column => (D column).of (bound column)
        let tuple := ordering.tuple row
        (value = some true ↔ cursor < tuple) ∧
          (value = some true ∧ tuple ≠ cursor ∧ ¬ tuple < cursor ∨
            value = some false ∧ tuple = cursor ∧ ¬ tuple < cursor ∨
              value = some false ∧ tuple ≠ cursor ∧ tuple < cursor) := by
  obtain ⟨bound, hafter, hbound⟩ := exists_after hdistinct hkeys hvalues
  refine ⟨_, bound, hafter, hbound, fun {V} _ D row => ?_⟩
  intro value cursor tuple
  have hvalue : value = some (decide (cursor < tuple)) := by
    have hknown : ∀ a : Sql.Atom, a.valueIn D (fun column => some (row column)) =
        some (a.test.passes (D a.column.name) (row a.column.name)) := fun _ => rfl
    show Sql.Predicate.eval _ _ = _
    rw [Sql.Predicate.eval_of_known hknown, Sql.Group.holds_predicate, holds_seekGroup,
      Option.some.injEq, Bool.eq_iff_iff, comesAfter_iff_lt, decide_eq_true_eq]
  rw [hvalue]
  refine ⟨by simp, ?_⟩
  rcases lt_trichotomy cursor tuple with h | h | h
  · exact .inl ⟨by simp [h], h.ne', h.not_gt⟩
  · exact .inr (.inl ⟨by simp [h], h.symm, by simp [h]⟩)
  · exact .inr (.inr ⟨by simp [h.not_gt], h.ne, h⟩)

/-! ### Items by price -/

/-- The dearest first, and those of one price by their ids. -/
def byPrice : OrderBy := [("main.price", .desc), ("main.id", .asc)]

def atPriceFive : SeekCursor := ⟨[("id", .ofNat 2), ("price", .ofNat 5)]⟩

def wholeNumbers : Sql.Domain ℤ where
  of
    | .int n => n
    | _ => 0
  like _ _ := false

def item (id price : ℤ) (column : String) : ℤ := if column = "id" then id else price

/-- A cheaper item comes after the cursor whatever its id, one of the same price if its id is
greater. -/
theorem after_lex_byPrice : ∃ group, atPriceFive.after byPrice = .ok group ∧
    ∀ id price : ℤ, group.predicate.eval
        (fun a => a.valueIn (fun _ => wholeNumbers) fun column => some (item id price column)) =
      some true ↔ price < 5 ∨ price = 5 ∧ 2 < id := by
  have hkeys : (Fields.keys atPriceFive.values).Perm (names byPrice) := by decide
  have hvalues : ∀ field ∈ atPriceFive.values, field.2.isBindable = true := by
    simp [atPriceFive, Json.ofNat, Json.isBindable, Decimal.maxSigned64]
  obtain ⟨group, bound, hafter, hbound, hrows⟩ := after_lex (by decide) hkeys hvalues
  refine ⟨group, hafter, fun id price => ?_⟩
  have hid : Bound.int 2 = bound "id" :=
    Json.BoundAs.unique (.int (by decide)) (hbound ("id", .ofNat 2) (by simp [atPriceFive]))
  have hprice : Bound.int 5 = bound "price" :=
    Json.BoundAs.unique (.int (by decide)) (hbound ("price", .ofNat 5) (by simp [atPriceFive]))
  have hnames : baseColumn "main.price" = "price" ∧ baseColumn "main.id" = "id" := by decide
  rw [(hrows (fun _ => wholeNumbers) (item id price)).1, byPrice, OrderBy.tuple_cons_lt_iff,
    OrderBy.tuple_cons_lt_iff, hnames.1, hnames.2, ← hid, ← hprice]
  show price < 5 ∨ 5 = price ∧ (2 < id ∨ 2 = id ∧ _) ↔ _
  have hnil := OrderBy.not_tuple_nil_lt (fun column => wholeNumbers.of (bound column))
    (item id price)
  simp only [hnil, and_false, or_false, eq_comm]

end SeekCursor
end FilterSql

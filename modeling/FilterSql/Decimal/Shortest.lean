import FilterSql.Decimal.Double

/-!
# FilterSql.Decimal.Shortest

The shortest decimal that reads back to a given finite number.

* `Grid`: the multiples of one power of ten, seen from the number.
* `Grid.readsBack`: which of them are rounded to the number.
* `Double.shortest`: the coarsest grid with such a multiple gives the digits; of two multiples the
  nearer is taken, and of two equally near ones the even.
-/

namespace FilterSql

/-- `digits * 10 ^ exponent`. -/
structure Decimal where
  digits : Nat
  exponent : Int
deriving DecidableEq

namespace Decimal

/-- For a number `m * 2 ^ q` and the multiples of `10 ^ g`: the number is `m * unit / step`
multiples, in naturals. -/
structure Grid where
  unit : Nat
  step : Nat

def Grid.at (q g : Int) : Grid where
  unit := Nat.pow 2 q.toNat * Nat.pow 10 (-g).toNat
  step := Nat.pow 2 (-q).toNat * Nat.pow 10 g.toNat

/-- Whether the `c`-th multiple lies among the reals that are rounded to `x`: between the two
halfway points, which belong to it when the mantissa is even. -/
def Grid.readsBack (grid : Grid) (x : Double) (c : Nat) : Bool :=
  let low := (4 * x.mantissa - if x.isNarrowBelow then 1 else 2) * grid.unit
  let high := (4 * x.mantissa + 2) * grid.unit
  let point := 4 * c * grid.step
  if x.mantissa % 2 = 0 then low ≤ point && point ≤ high else low < point && point < high

/-- Of the two multiples around the number, the one to write. -/
def Grid.pick? (grid : Grid) (x : Double) : Option Nat :=
  let exact := x.mantissa * grid.unit
  let below := exact / grid.step
  let above := below + 1
  match grid.readsBack x below, grid.readsBack x above with
  | false, false => none
  | true, false => some below
  | false, true => some above
  | true, true =>
    let down := exact - below * grid.step
    let up := above * grid.step - exact
    if down < up then some below
    else if up < down then some above
    else if below % 2 = 0 then some below else some above

/-- Takes zeros at the end of the digits into the exponent, at most `fuel` of them. -/
def strip : Nat → Decimal → Decimal
  | 0, d => d
  | fuel + 1, d =>
    if d.digits ≠ 0 ∧ d.digits % 10 = 0 then strip fuel ⟨d.digits / 10, d.exponent + 1⟩ else d

end Decimal

namespace Double

/-- Whether `10 ^ e` is at most the number. -/
def reaches (x : Double) (e : Int) : Bool :=
  let grid := Decimal.Grid.at x.exponent e
  grid.step ≤ x.mantissa * grid.unit

/-- The power of ten of the leading digit, for a number that is not zero. -/
def leading (x : Double) : Int :=
  let guess := (((x.mantissa.log2 : Int) + x.exponent) * 30103).fdiv 100000
  if !x.reaches guess then guess - 1
  else if x.reaches (guess + 1) then guess + 1
  else guess

/-- The exact value, which always reads back. -/
def exactDecimal (x : Double) : Decimal :=
  if 0 ≤ x.exponent then ⟨x.mantissa * Nat.pow 2 x.exponent.toNat, 0⟩
  else ⟨x.mantissa * Nat.pow 5 (-x.exponent).toNat, x.exponent⟩

/-- The shortest decimal that reads back to the absolute value of a finite number. -/
def shortest (x : Double) : Decimal :=
  if x.isZero then ⟨0, 0⟩
  else
    let top := x.leading
    let found := (List.range 17).findSome? fun (places : Nat) =>
      let g := top - (places : Int)
      ((Decimal.Grid.at x.exponent g).pick? x).map fun c => (⟨c, g⟩ : Decimal)
    Decimal.strip 800 (found.getD x.exactDecimal)

end Double
end FilterSql

import FilterSql.Decimal.Shortest

/-!
# FilterSql.Decimal.Layout

How the digits of a floating-point number are laid out as text.
-/

namespace FilterSql

namespace Decimal

/-- The powers of ten of the leading digit at which a number is written positionally; beyond them
it is written with an exponent. -/
structure Layout where
  plainFrom : Int
  plainTo : Int

/-- The power of ten of the leading digit. -/
def leading (d : Decimal) : Int :=
  ((Nat.toDigits 10 d.digits).length : Int) - 1 + d.exponent

/-- With a point and at least one digit after it. -/
def plain (d : Decimal) : List Char :=
  let digits := Nat.toDigits 10 d.digits
  if 0 ≤ d.exponent then digits ++ List.replicate d.exponent.toNat '0' ++ ['.', '0']
  else if 0 ≤ d.leading then
    digits.take (d.leading.toNat + 1) ++ '.' :: digits.drop (d.leading.toNat + 1)
  else ['0', '.'] ++ List.replicate (-d.leading - 1).toNat '0' ++ digits

/-- With a signed exponent, and a point only if there is a second digit. -/
def scientific (d : Decimal) : List Char :=
  let digits := Nat.toDigits 10 d.digits
  let rest := digits.drop 1
  let sign := if d.leading < 0 then '-' else '+'
  digits.take 1 ++ (if rest.isEmpty then [] else '.' :: rest) ++
    ['e', sign] ++ Nat.toDigits 10 d.leading.natAbs

def Layout.write (layout : Layout) (d : Decimal) : List Char :=
  if d.digits = 0 || (layout.plainFrom ≤ d.leading && d.leading ≤ layout.plainTo) then d.plain
  else d.scientific

end Decimal

namespace Double

/-- Numbers are written positionally from `0.00001` up to sixteen digits before the point, and
with a signed exponent beyond: `1e-7`, `1e+16`. -/
def layout : Decimal.Layout := ⟨-5, 15⟩

/-- The text of a finite number; zero keeps its sign. -/
def chars (x : Double) : List Char :=
  (if x.isNegative then ['-'] else []) ++ layout.write x.shortest

end Double
end FilterSql

/-!
# FilterSql.Decimal.Rounded

Quotients rounded to a natural number.
-/

namespace FilterSql
namespace Decimal

/-- The natural number nearest to `n / d`, a half going to the even neighbour. -/
def rounded (n d : Nat) : Nat :=
  let q := n / d
  let r := n % d
  if d < 2 * r || (2 * r == d && q % 2 == 1) then q + 1 else q

end Decimal
end FilterSql

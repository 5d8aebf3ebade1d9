/-!
# FilterSql.Decimal.Padded

Numbers with a least count of digits, and with a sign if there is one to show.
-/

namespace FilterSql
namespace Decimal

/-- The digits in a base, behind as many zeros as bring them to `width`. -/
def paddedIn (base width n : Nat) : List Char :=
  let digits := Nat.toDigits base n
  List.replicate (width - digits.length) '0' ++ digits

def padded (width n : Nat) : List Char := paddedIn 10 width n

def intChars (n : Int) : List Char :=
  if n < 0 then '-' :: Nat.toDigits 10 n.natAbs else Nat.toDigits 10 n.natAbs

def trimZeros (s : List Char) : List Char := (s.reverse.dropWhile (· == '0')).reverse

end Decimal
end FilterSql

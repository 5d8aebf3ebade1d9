/-!
# FilterSql.Decimal.Bounded

Reading natural numbers that have a largest value: an optional `+` and one or more ASCII digits,
leading zeros allowed.
-/

namespace FilterSql
namespace Decimal

inductive ReadError where
  | empty
  | badDigit
  | tooLarge
deriving DecidableEq

def ReadError.message : ReadError → String
  | .empty => "cannot parse integer from empty string"
  | .badDigit => "invalid digit found in string"
  | .tooLarge => "number too large to fit in target type"

def isDigit (c : Char) : Bool := 48 ≤ c.toNat && c.toNat ≤ 57

def digitValue (c : Char) : Nat := c.toNat - 48

/-- The value of a list of digits. -/
def digitsValue (s : List Char) : Nat := s.foldl (fun n c => 10 * n + digitValue c) 0

/-- Reads digit by digit: a bad digit is reported only if the digits before it are within the
bound, and a value beyond the bound at the digit that passes it. -/
def readDigits (bound : Nat) : Nat → List Char → Except ReadError Nat
  | n, [] => .ok n
  | n, c :: r =>
    if !isDigit c then .error .badDigit
    else if bound < 10 * n + digitValue c then .error .tooLarge
    else readDigits bound (10 * n + digitValue c) r

def readBounded (bound : Nat) (s : List Char) : Except ReadError Nat :=
  match s with
  | [] => .error .empty
  | ['+'] => .error .badDigit
  | '+' :: r => readDigits bound 0 r
  | s => readDigits bound 0 s

/-- The largest values of 32 and 64 bits, and of 63 bits with a sign. -/
def max32 : Nat := Nat.pow 2 32 - 1

def max64 : Nat := Nat.pow 2 64 - 1

def maxSigned64 : Nat := Nat.pow 2 63 - 1

end Decimal
end FilterSql

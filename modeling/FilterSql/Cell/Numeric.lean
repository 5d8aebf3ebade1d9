import FilterSql.Decimal.Bounded
import FilterSql.Decimal.Padded
import FilterSql.Decimal.Rounded
import FilterSql.Text.Cut

/-!
# FilterSql.Cell.Numeric

Decimal numbers with a fixed count of digits behind the point, of which the digits have to fit into
96 bits. The server sends such a number as groups of four digits, counted from the point, and as
the count of places to show.

* `Numeric.addGroups?`: the number is the sum of its groups, the highest first. Each sum is rounded
  to as many places as fit, so what one rounding has dropped a later group does not bring back.
* `Numeric.rescale`: the sum gets the places to show, or as many of them as fit.
* `Numeric.bounded?`: none if the integer part does not fit, or a digit stands behind place 28.
-/

namespace FilterSql

/-- The number `± digits / 10 ^ scale`. -/
structure Numeric where
  negative : Bool
  digits : Nat
  scale : Nat
deriving DecidableEq

namespace Numeric

def maxDigits : Nat := Nat.pow 2 96 - 1

/-- The lowest power of 10000 that a group may stand for. -/
def minWeight : Int := -7

/-- Reads an optional sign, digits, and an optional fraction. -/
def parse? (text : List Char) : Option Numeric :=
  let (negative, text) :=
    match text with
    | '-' :: rest => (true, rest)
    | rest => (false, rest)
  let (whole, fraction) := (Text.cutFirst? (· == '.') text).getD (text, [])
  if whole.isEmpty || !(whole ++ fraction).all Decimal.isDigit then none
  else some ⟨negative, Decimal.digitsValue (whole ++ fraction), fraction.length⟩

/-- The number with the most places, up to `scale`, with which it fits. -/
def fit? (n : Numeric) : Nat → Option Numeric
  | 0 =>
    let digits := Decimal.rounded n.digits (Nat.pow 10 n.scale)
    if digits ≤ maxDigits then some ⟨n.negative, digits, 0⟩ else none
  | scale + 1 =>
    let digits := Decimal.rounded n.digits (Nat.pow 10 (n.scale - (scale + 1)))
    if digits ≤ maxDigits then some ⟨n.negative, digits, scale + 1⟩ else fit? n scale

/-! ## Groups -/

/-- The digits of `n` to the base 10000, the highest first. -/
def groupsOf (n : Nat) : List Nat :=
  if n = 0 then [] else groupsOf (n / 10000) ++ [n % 10000]
termination_by n
decreasing_by omega

/-- The groups that stand behind the point. -/
def groupsBehind (n : Numeric) : Nat := (n.scale + 3) / 4

def groups (n : Numeric) : List Nat :=
  groupsOf (n.digits * Nat.pow 10 (4 * n.groupsBehind - n.scale))

/-- The number further from zero by `group * 10000 ^ weight`, exactly. -/
def addGroup (n : Numeric) (group : Nat) (weight : Int) : Numeric :=
  let scale := max n.scale (-4 * weight).toNat
  ⟨n.negative,
    n.digits * Nat.pow 10 (scale - n.scale) + group * Nat.pow 10 (scale + 4 * weight).toNat, scale⟩

/-- Adds groups, the first of which stands for `10000 ^ weight`. A group of zeros adds no places. -/
def addGroups? (sum : Numeric) (weight : Int) : List Nat → Option Numeric
  | [] => some sum
  | group :: rest =>
    if group = 0 then addGroups? sum (weight - 1) rest
    else if weight < minWeight then none
    else
      let exact := sum.addGroup group weight
      match exact.fit? exact.scale with
      | none => none
      | some sum => addGroups? sum (weight - 1) rest

/-- As many of `count` more places as fit. -/
def widen (n : Numeric) : Nat → Numeric
  | 0 => n
  | count + 1 =>
    if 10 * n.digits ≤ maxDigits then widen ⟨n.negative, 10 * n.digits, n.scale + 1⟩ count else n

/-- The same number with `scale` places, if they fit; places that are dropped hold zeros. -/
def rescale (n : Numeric) (scale : Nat) : Numeric :=
  if n.scale ≤ scale then n.widen (scale - n.scale)
  else ⟨n.negative, n.digits / Nat.pow 10 (n.scale - scale), scale⟩

def bounded? (n : Numeric) : Option Numeric :=
  let first : Int := n.groups.length - n.groupsBehind - 1
  (addGroups? ⟨n.negative, 0, 0⟩ first n.groups).map fun sum => sum.rescale n.scale

/-- Zero has neither sign nor places. -/
def chars (n : Numeric) : List Char :=
  if n.digits = 0 then ['0']
  else
    let all := Decimal.padded (n.scale + 1) n.digits
    let whole := all.take (all.length - n.scale)
    let fraction := all.drop (all.length - n.scale)
    (if n.negative then ['-'] else []) ++ whole ++
      if fraction.isEmpty then [] else '.' :: fraction

end Numeric
end FilterSql

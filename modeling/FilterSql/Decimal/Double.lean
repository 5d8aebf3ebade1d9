import FilterSql.Decimal.Padded
import FilterSql.Decimal.Rounded

/-!
# FilterSql.Decimal.Double

Binary floating-point numbers of 64 bits, kept as their bits: sign, eleven bits of exponent, 52
bits of fraction. A finite one is `± mantissa * 2 ^ exponent`.

* `Double.nearest`: the number nearest to a quotient of natural numbers.
* `Double.times`, `Double.dividedBy`: product and quotient, each rounded once.
* `Double.ofParts?`: a significand scaled by a power of ten, in rounded steps.
-/

namespace FilterSql

structure Double where
  bits : UInt64
deriving DecidableEq

namespace Double

def isNegative (x : Double) : Bool := Nat.pow 2 63 ≤ x.bits.toNat

/-- The eleven exponent bits as they are stored. -/
def field (x : Double) : Nat := x.bits.toNat / Nat.pow 2 52 % Nat.pow 2 11

def fraction (x : Double) : Nat := x.bits.toNat % Nat.pow 2 52

/-- Neither an infinity nor NaN. -/
def isFinite (x : Double) : Bool := x.field != 2047

def mantissa (x : Double) : Nat := if x.field = 0 then x.fraction else Nat.pow 2 52 + x.fraction

def exponent (x : Double) : Int := if x.field = 0 then -1074 else (x.field : Int) - 1075

/-- At a power of two the next value below is half as far away as the next value above. -/
def isNarrowBelow (x : Double) : Bool := x.fraction = 0 && 1 < x.field

def isZero (x : Double) : Bool := x.mantissa = 0

/-- The bits as sixteen hexadecimal digits. -/
def hex (x : Double) : String := String.ofList (Decimal.paddedIn 16 16 x.bits.toNat)

def negated (x : Double) : Double := ⟨x.bits ^^^ 0x8000000000000000⟩

/-! ## Rounding -/

def infinity : Double := ⟨0x7FF0000000000000⟩

/-- The greatest power of two, but none below the least subnormal number, of which the quotient of
two positive numbers is at least `2 ^ 52` multiples. -/
def unitOf (num den : Nat) : Int :=
  let guess : Int := (num.log2 : Int) - den.log2 - 52
  let unit :=
    if den * Nat.pow 2 (52 + guess.toNat) ≤ num * Nat.pow 2 (-guess).toNat then guess else guess - 1
  max unit (-1074)

/-- The number nearest to `num / den`, of two equally near ones the even; an infinity if that lies
beyond the finite range. A mantissa that rounding brings to the next power of two carries into the
exponent bits. -/
def nearest (num den : Nat) : Double :=
  if num = 0 then ⟨0⟩
  else
    let unit := unitOf num den
    let mantissa :=
      Decimal.rounded (num * Nat.pow 2 (-unit).toNat) (den * Nat.pow 2 unit.toNat)
    let bits := (unit + 1074).toNat * Nat.pow 2 52 + mantissa
    if bits < infinity.bits.toNat then ⟨UInt64.ofNat bits⟩ else infinity

/-- The absolute value of a finite number is `num / den`. -/
def num (x : Double) : Nat := x.mantissa * Nat.pow 2 x.exponent.toNat

def den (x : Double) : Nat := Nat.pow 2 (-x.exponent).toNat

/-- The product of the absolute values. -/
def times (x y : Double) : Double := nearest (x.num * y.num) (x.den * y.den)

/-- The quotient of the absolute values; the divisor is not zero. -/
def dividedBy (x y : Double) : Double := nearest (x.num * y.den) (x.den * y.num)

def ofNat (n : Nat) : Double := nearest n 1

def ofInt (n : Int) : Double := if n < 0 then (ofNat n.natAbs).negated else ofNat n.natAbs

/-- A number of 32 bits is one of 64 bits with the same value. -/
def ofSingle (bits : UInt32) : Double :=
  let negative : Bool := Nat.pow 2 31 ≤ bits.toNat
  let field := bits.toNat / Nat.pow 2 23 % Nat.pow 2 8
  let fraction := bits.toNat % Nat.pow 2 23
  let magnitude : Double :=
    if field = 255 then ⟨infinity.bits ||| UInt64.ofNat (fraction * Nat.pow 2 29)⟩
    else if field = 0 then nearest fraction (Nat.pow 2 149)
    else nearest ((Nat.pow 2 23 + fraction) * Nat.pow 2 field) (Nat.pow 2 150)
  if negative then magnitude.negated else magnitude

/-! ## Powers of ten -/

/-- The number nearest to a power of ten; `maxTen` is the last that is finite. -/
def tenTo (n : Nat) : Double := ofNat (Nat.pow 10 n)

def maxTen : Nat := 308

/-- Divides by `10 ^ n`, by at most `maxTen` places at once, each quotient being rounded. -/
def shiftDown (x : Double) (n : Nat) : Double :=
  if n ≤ maxTen then x.dividedBy (tenTo n)
  else if x.isZero then x
  else shiftDown (x.dividedBy (tenTo maxTen)) (n - maxTen)
termination_by n
decreasing_by simp only [maxTen] at *; omega

/-- Multiplies by `10 ^ n`; none beyond the finite range. -/
def shiftUp? (x : Double) (n : Nat) : Option Double :=
  if n ≤ maxTen then
    let y := x.times (tenTo n)
    if y.isFinite then some y else none
  else if x.isZero then some x
  else none

/-- The value of `± significand * 10 ^ exponent`. The significand, the power of ten and each product
or quotient are rounded one after another. -/
def ofParts? (negative : Bool) (significand : Nat) (exponent : Int) : Option Double :=
  let magnitude :=
    if 0 ≤ exponent then (ofNat significand).shiftUp? exponent.toNat
    else some ((ofNat significand).shiftDown exponent.natAbs)
  magnitude.map fun x => if negative then x.negated else x

end Double
end FilterSql

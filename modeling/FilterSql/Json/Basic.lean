import FilterSql.Decimal.Layout
import FilterSql.Decimal.Bounded

/-!
# FilterSql.Json.Basic

JSON values. The fields of an object keep the order in which their keys first came.
-/

namespace FilterSql

/-- A number is an integer between `-2^63` and `2^64 - 1`, or a finite floating-point number. -/
inductive Number where
  | int (value : Int)
  | float (value : Double)
deriving DecidableEq

inductive Json where
  | null
  | bool (value : Bool)
  | num (value : Number)
  | str (value : String)
  | arr (items : List Json)
  | obj (fields : List (String × Json))

/-- The fields of an object: a map from keys to values in order of first arrival. A row of a
result and a filter are such maps. -/
abbrev Fields := List (String × Json)

abbrev Row := Fields

namespace Fields

def get? (fields : Fields) (key : String) : Option Json :=
  match fields with
  | [] => none
  | (k, v) :: rest => if k = key then some v else get? rest key

/-- A key that is there keeps its place and takes the new value; a new key goes to the end. -/
def insert (fields : Fields) (key : String) (value : Json) : Fields :=
  match fields with
  | [] => [(key, value)]
  | (k, v) :: rest => if k = key then (k, value) :: rest else (k, v) :: insert rest key value

/-- The map that results from inserting the pairs one after another. -/
def ofList (pairs : List (String × Json)) : Fields :=
  pairs.foldl (fun fields pair => insert fields pair.1 pair.2) []

def keys (fields : Fields) : List String := fields.map Prod.fst

end Fields

namespace Number

def chars : Number → List Char
  | .int n => (toString n).toList
  | .float x => x.chars

def text (n : Number) : String := String.ofList n.chars

/-- The value as a natural number of 64 bits. -/
def natural? : Number → Option Nat
  | .int n => if 0 ≤ n then some n.toNat else none
  | .float _ => none

/-- A number without fraction and exponent of at most 64 bits: an integer if these hold it with its
sign. The negative zero is a floating-point number. -/
def ofInteger (negative : Bool) (n : Nat) : Number :=
  if !negative then .int n
  else if n ≠ 0 ∧ n ≤ Nat.pow 2 63 then .int (-n)
  else .float (Double.ofNat n).negated

/-- Takes digits into a significand as long as 64 bits hold it, and returns it with the digits that
are left. -/
def takeDigits (significand : Nat) : List Char → Nat × List Char
  | [] => (significand, [])
  | c :: rest =>
    let next := 10 * significand + Decimal.digitValue c
    if next ≤ Decimal.max64 then takeDigits next rest else (significand, c :: rest)

/-- The number with these digits before and behind the point, and with this exponent; none beyond
the finite range. Digits before the point that the significand does not take raise the exponent,
those behind it are passed over. -/
def ofDigits? (negative : Bool) (whole fraction : List Char) (exponent : Option Int) :
    Option Number :=
  let (significand, raised) := takeDigits 0 whole
  if fraction.isEmpty && exponent.isNone && raised.isEmpty then
    some (ofInteger negative significand)
  else
    let (significand, passed) := takeDigits significand fraction
    let lowered : Int := (fraction.length : Int) - passed.length
    (Double.ofParts? negative significand (exponent.getD 0 + raised.length - lowered)).map .float

end Number

namespace Json

def isNull : Json → Bool
  | .null => true
  | _ => false

def ofNat (n : Nat) : Json := .num (.int n)

def ofInt (n : Int) : Json := .num (.int n)

def ofOption {α : Type} (f : α → Json) : Option α → Json
  | none => .null
  | some a => f a

/-- What `f` reads from each item of a list; none if it fails on one of them. -/
def listOf? {α β : Type} (f : β → Option α) : List β → Option (List α)
  | [] => some []
  | b :: rest =>
    match f b, listOf? f rest with
    | some a, some more => some (a :: more)
    | _, _ => none

mutual

/-- The same value with the repeated keys of each object merged: a key keeps its first place and
takes its last value. -/
def merged : Json → Json
  | .arr items => .arr (mergedItems items)
  | .obj fields => .obj (Fields.ofList (mergedFields fields))
  | v => v

def mergedItems : List Json → List Json
  | [] => []
  | v :: rest => merged v :: mergedItems rest

def mergedFields : List (String × Json) → List (String × Json)
  | [] => []
  | (k, v) :: rest => (k, merged v) :: mergedFields rest

end

end Json
end FilterSql

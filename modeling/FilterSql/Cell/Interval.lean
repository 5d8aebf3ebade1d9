import FilterSql.Decimal.Padded

/-!
# FilterSql.Cell.Interval

Spans of time as ISO 8601 durations. Months, days and microseconds are counted apart, for a month
has no fixed length; every part has a sign of its own.
-/

namespace FilterSql

structure Interval where
  months : Int
  days : Int
  micros : Int
deriving DecidableEq

namespace Interval

/-- A part with its letter; a part of nothing is left out. -/
def part (n : Int) (letter : Char) : List Char :=
  if n = 0 then [] else Decimal.intChars n ++ [letter]

def dateChars (i : Interval) : List Char :=
  part (i.months.tdiv 12) 'Y' ++ part (i.months.tmod 12) 'M' ++ part i.days 'D'

/-- Seconds with up to six digits behind the point, the last of them not zero. -/
def secondChars (micros : Int) : List Char :=
  let fraction := (micros.tmod 1000000).natAbs
  let seconds := micros.tdiv 1000000
  if fraction = 0 then Decimal.intChars seconds ++ ['S']
  else
    (if micros < 0 ∧ seconds = 0 then ['-'] else []) ++ Decimal.intChars seconds ++
      '.' :: Decimal.trimZeros (Decimal.padded 6 fraction) ++ ['S']

/-- Hours, minutes and seconds; seconds of nothing stand only where nothing else does. -/
def timeChars (micros : Int) : List Char :=
  let hours := micros.tdiv 3600000000
  let rest := micros.tmod 3600000000
  let minutes := rest.tdiv 60000000
  let rest := rest.tmod 60000000
  part hours 'H' ++ part minutes 'M' ++
    if rest ≠ 0 ∨ (hours = 0 ∧ minutes = 0) then secondChars rest else []

def chars (i : Interval) : List Char :=
  'P' :: i.dateChars ++
    if i.micros ≠ 0 ∨ i.dateChars = [] then 'T' :: timeChars i.micros else []

end Interval
end FilterSql

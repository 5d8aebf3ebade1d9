import FilterSql.Decimal.Padded

/-!
# FilterSql.Cell.Calendar

Dates and times as text. Days are counted from 2000-01-01 in the Gregorian calendar, which goes on
before its introduction and has a year zero; times of day are counted in microseconds. The calendar
has a first and a last day.
-/

namespace FilterSql

structure Date where
  year : Int
  month : Nat
  day : Nat
deriving DecidableEq

namespace Date

/-- The days from 1 March of year zero, with which the count of leap days begins, to 2000-01-01. -/
def epoch : Int := 730425

/-- The calendar begins on the first day of the year -262143. -/
def firstDay : Int := -96476249

/-- The calendar ends with the year 262142. -/
def lastDay : Int := 95015279

def isInCalendar (days : Int) : Bool := firstDay ≤ days && days ≤ lastDay

/-- Years that begin in March end in the leap day, and 400 of them have 146097 days. -/
def ofDays (days : Int) : Date :=
  let days := days + epoch
  let era := days.fdiv 146097
  let dayOfEra := (days.fmod 146097).toNat
  let yearOfEra := (dayOfEra - dayOfEra / 1460 + dayOfEra / 36524 - dayOfEra / 146096) / 365
  let dayOfYear := dayOfEra - (365 * yearOfEra + yearOfEra / 4 - yearOfEra / 100)
  let month := (5 * dayOfYear + 2) / 153
  let day := dayOfYear - (153 * month + 2) / 5 + 1
  if month < 10 then ⟨era * 400 + yearOfEra, month + 3, day⟩
  else ⟨era * 400 + yearOfEra + 1, month - 9, day⟩

/-- Four digits for the years from 0 to 9999; all other years have a sign. -/
def yearChars (year : Int) : List Char :=
  if year < 0 then '-' :: Decimal.padded 4 year.natAbs
  else if year ≤ 9999 then Decimal.padded 4 year.natAbs
  else '+' :: Decimal.padded 4 year.natAbs

def chars (d : Date) : List Char :=
  yearChars d.year ++ '-' :: Decimal.padded 2 d.month ++ '-' :: Decimal.padded 2 d.day

end Date

namespace TimeOfDay

/-- The microseconds of a day. -/
def perDay : Nat := 86400000000

/-- Three digits if they are enough, or else six; none for whole seconds. -/
def fractionChars (micros : Nat) : List Char :=
  if micros = 0 then []
  else if micros % 1000 = 0 then '.' :: Decimal.padded 3 (micros / 1000)
  else '.' :: Decimal.padded 6 micros

/-- The days go round: midnight at the end of the day is that at its start, and what lies before
midnight belongs to the end of the day. -/
def chars (micros : Int) : List Char :=
  let micros := (micros.fmod perDay).toNat
  let seconds := micros / 1000000
  Decimal.padded 2 (seconds / 3600) ++ ':' :: Decimal.padded 2 (seconds / 60 % 60) ++
    ':' :: Decimal.padded 2 (seconds % 60) ++ fractionChars (micros % 1000000)

end TimeOfDay

namespace Instant

/-- The day of a point in time that is given by its microseconds from 2000-01-01, midnight. -/
def day (micros : Int) : Int := micros.fdiv TimeOfDay.perDay

/-- A point in time in coordinated universal time. -/
def chars (micros : Int) : List Char :=
  (Date.ofDays (day micros)).chars ++
    'T' :: TimeOfDay.chars micros ++ "+00:00".toList

end Instant
end FilterSql

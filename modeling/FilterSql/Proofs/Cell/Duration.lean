import FilterSql.Cell.Interval
import FilterSql.Proofs.Json.Numbers
import Mathlib.Algebra.Group.Nat.Defs
import Mathlib.Algebra.Ring.Int.Defs
import Mathlib.Data.List.Nodup

/-!
# FilterSql.Proofs.Cell.Duration

Durations as ISO 8601 writes them, with a sign for every part.

* `Duration`, `Duration.chars`, `Duration.WellFormed`: the parts of a text, and the text.
* `Duration.interval`: what the parts come to in months, days and microseconds.
* `Duration.read?`: the parts from the text.
* `Duration.read?_chars`: a well-formed duration is read back from its text.
-/

namespace FilterSql

open NumberText (minusChars fractionChars)

/-- A count of one unit: digits, perhaps with a sign and a fraction, and the letter of the unit. -/
structure DurationPart where
  negative : Bool
  whole : List Char
  fraction : List Char
  letter : Char
deriving DecidableEq

structure Duration where
  date : List DurationPart
  time : List DurationPart
deriving DecidableEq

namespace DurationPart

def chars (p : DurationPart) : List Char :=
  minusChars p.negative ++ p.whole ++ fractionChars p.fraction ++ [p.letter]

structure WellFormed (p : DurationPart) : Prop where
  whole_ne_nil : p.whole ≠ []
  whole_digits : ∀ c ∈ p.whole, Decimal.isDigit c = true
  fraction_digits : ∀ c ∈ p.fraction, Decimal.isDigit c = true
  fraction_length : p.fraction.length ≤ 6
  fraction_last : p.fraction.getLast? ≠ some '0'
  fraction_letter : p.fraction ≠ [] → p.letter = 'S'

def signed (negative : Bool) (n : ℕ) : Int := if negative then -n else n

/-- How many whole units. -/
def count (p : DurationPart) : Int := signed p.negative (Decimal.digitsValue p.whole)

/-- How many millionths of the unit. -/
def millionths (p : DurationPart) : Int :=
  signed p.negative (Decimal.digitsValue p.whole * 10 ^ 6 +
    Decimal.digitsValue p.fraction * 10 ^ (6 - p.fraction.length))

end DurationPart

namespace Duration

def dateLetters : List Char := ['Y', 'M', 'D']

def timeLetters : List Char := ['H', 'M', 'S']

/-- The time stands behind its own mark, and without a time there is no mark. -/
def timeChars (time : List DurationPart) : List Char :=
  if time = [] then [] else 'T' :: time.flatMap DurationPart.chars

def chars (d : Duration) : List Char :=
  'P' :: (d.date.flatMap DurationPart.chars ++ timeChars d.time)

/-- The parts of date and time stand in order, each at most once, and there is one at least. -/
structure WellFormed (d : Duration) : Prop where
  date_letters : (d.date.map DurationPart.letter).Sublist dateLetters
  time_letters : (d.time.map DurationPart.letter).Sublist timeLetters
  parts_ne_nil : d.date ++ d.time ≠ []
  parts : ∀ p ∈ d.date ++ d.time, p.WellFormed

def monthsIn : Char → Int
  | 'Y' => 12
  | 'M' => 1
  | _ => 0

def daysIn : Char → Int
  | 'D' => 1
  | _ => 0

def secondsIn : Char → Int
  | 'H' => 3600
  | 'M' => 60
  | 'S' => 1
  | _ => 0

/-- The sum of the parts, each as many of what its letter stands for as `amount` says. -/
def total (size : Char → Int) (amount : DurationPart → Int) (parts : List DurationPart) : Int :=
  (parts.map fun p => size p.letter * amount p).sum

def interval (d : Duration) : Interval where
  months := total monthsIn DurationPart.count d.date
  days := total daysIn DurationPart.count d.date
  micros := total secondsIn DurationPart.millionths d.time

end Duration

/-! ## Reading -/

namespace DurationPart

def read? (s : List Char) : Option (DurationPart × List Char) :=
  let (negative, s) := Json.Token.readMinus s
  let (whole, s) := s.span Decimal.isDigit
  if whole = [] then none
  else
    match Json.Token.readFraction s with
    | some (fraction, letter :: rest) => some (⟨negative, whole, fraction, letter⟩, rest)
    | _ => none

/-- No number goes on with the letter. -/
def EndsPart (letter : Char) : Prop := ∀ rest, EndsNumber (letter :: rest)

theorem read?_chars {p : DurationPart} (hp : p.WellFormed) (hletter : EndsPart p.letter)
    (rest : List Char) : read? (p.chars ++ rest) = some (p, rest) := by
  have hminus := NumberText.readMinus_digits p.negative
    (fractionChars p.fraction ++ p.letter :: rest) hp.whole_ne_nil hp.whole_digits
  have hends : Decimal.EndsDigits (fractionChars p.fraction ++ p.letter :: rest) :=
    NumberText.endsDigits_fraction p.fraction none (hletter rest)
  have hfraction : Json.Token.readFraction (fractionChars p.fraction ++ p.letter :: rest) =
      some (p.fraction, p.letter :: rest) :=
    @NumberText.readFraction_chars p.fraction (p.letter :: rest) none hp.fraction_digits
      (hletter rest)
  simp only [chars, List.append_assoc, List.singleton_append, read?, hminus,
    Decimal.span_digits hp.whole_digits hends, hfraction, if_neg hp.whole_ne_nil]

end DurationPart

namespace Duration

/-- Parts with some of the letters, in their order. -/
def readParts : List Char → List Char → List DurationPart × List Char
  | [], s => ([], s)
  | letter :: letters, s =>
    match DurationPart.read? s with
    | none => ([], s)
    | some (p, rest) =>
      if p.letter = letter then
        let (parts, rest) := readParts letters rest
        (p :: parts, rest)
      else readParts letters s

/-- The digits behind the point may be any, so this reads more than the well-formed durations. -/
def read? : List Char → Option Duration
  | 'P' :: s =>
    match readParts dateLetters s with
    | (date, []) => if date = [] then none else some ⟨date, []⟩
    | (date, 'T' :: s) =>
      match readParts timeLetters s with
      | (time, []) => if time = [] then none else some ⟨date, time⟩
      | _ => none
    | _ => none
  | _ => none

theorem readParts_of_none (letters : List Char) {s : List Char}
    (h : DurationPart.read? s = none) : readParts letters s = ([], s) := by
  cases letters with
  | nil => rfl
  | cons letter letters => rw [readParts, h]

theorem readParts_chars {letters rest : List Char} {parts : List DurationPart}
    (hletters : letters.Nodup) (hends : ∀ letter ∈ letters, DurationPart.EndsPart letter)
    (hsub : (parts.map DurationPart.letter).Sublist letters) (hparts : ∀ p ∈ parts, p.WellFormed)
    (hrest : DurationPart.read? rest = none) :
    readParts letters (parts.flatMap DurationPart.chars ++ rest) = (parts, rest) := by
  induction letters generalizing parts with
  | nil =>
    rw [List.sublist_nil, List.map_eq_nil_iff] at hsub
    rw [hsub]
    rfl
  | cons letter letters ih =>
    obtain ⟨hnot, hletters⟩ := List.nodup_cons.1 hletters
    cases parts with
    | nil => exact readParts_of_none _ hrest
    | cons p parts =>
      have hp : p.letter ∈ letter :: letters := hsub.subset List.mem_cons_self
      rw [List.forall_mem_cons] at hends hparts
      have hread := DurationPart.read?_chars hparts.1 (List.forall_mem_cons.2 hends _ hp)
        (parts.flatMap DurationPart.chars ++ rest)
      by_cases heq : p.letter = letter
      · rw [List.map_cons, heq, List.cons_sublist_cons] at hsub
        rw [List.flatMap_cons, List.append_assoc, readParts, hread]
        simp only [if_pos heq, ih hletters hends.2 hsub hparts.2]
      -- The letter is left out, so all parts have one of the letters behind it.
      · have hskip : ((p :: parts).map DurationPart.letter).Sublist letters := by
          rcases List.sublist_cons_iff.1 hsub with hsub | ⟨_, hcons, -⟩
          · exact hsub
          · exact absurd (List.cons.inj hcons).1 heq
        have hnext := ih hletters hends.2 hskip (List.forall_mem_cons.2 hparts)
        rw [List.flatMap_cons, List.append_assoc] at hnext ⊢
        rw [readParts, hread]
        simp only [if_neg heq, hnext]

theorem endsPart_of_mem : ∀ letter ∈ dateLetters ++ timeLetters, DurationPart.EndsPart letter := by
  intro letter h
  simp only [dateLetters, timeLetters, List.cons_append, List.nil_append, List.mem_cons,
    List.not_mem_nil, or_false] at h
  intro rest c hc
  obtain rfl : letter = c := by simpa using hc
  rcases h with rfl | rfl | rfl | rfl | rfl | rfl <;> decide

theorem read?_chars {d : Duration} (hd : d.WellFormed) : read? d.chars = some d := by
  obtain ⟨date, time⟩ := d
  obtain ⟨hdateEnds, htimeEnds⟩ := List.forall_mem_append.1 endsPart_of_mem
  obtain ⟨hdateParts, htimeParts⟩ := List.forall_mem_append.1 hd.parts
  have hdate {rest : List Char} (hrest : DurationPart.read? rest = none) :
      readParts dateLetters (date.flatMap DurationPart.chars ++ rest) = (date, rest) :=
    readParts_chars (by decide) hdateEnds hd.date_letters hdateParts hrest
  have htime : readParts timeLetters (time.flatMap DurationPart.chars ++ []) = (time, []) :=
    readParts_chars (by decide) htimeEnds hd.time_letters htimeParts rfl
  rw [List.append_nil] at htime
  by_cases hnil : time = []
  · have hne : date ≠ [] := fun h => hd.parts_ne_nil (by rw [h, hnil, List.append_nil])
    have hnone : DurationPart.read? [] = none := rfl
    subst hnil
    simp only [chars, timeChars, if_true, read?, hdate hnone, if_neg hne]
  · have hmark : DurationPart.read? ('T' :: time.flatMap DurationPart.chars) = none := rfl
    simp only [chars, timeChars, if_neg hnil, read?, hdate hmark, htime]

example : (read? "P1Y2M-3DT-0.5S".toList).map interval = some ⟨14, -3, -500000⟩ := by decide

theorem eq_of_chars_eq {d d' : Duration} (hd : d.WellFormed) (hd' : d'.WellFormed)
    (h : d.chars = d'.chars) : d = d' :=
  Option.some.inj ((read?_chars hd).symm.trans (h ▸ read?_chars hd'))

end Duration
end FilterSql

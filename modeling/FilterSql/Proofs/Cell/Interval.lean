import FilterSql.Proofs.Cell.Duration
import FilterSql.Proofs.Decimal.Padded

/-!
# FilterSql.Proofs.Cell.Interval

The text of a span of time is a well-formed duration that comes to that span.

* `Interval.duration`: the parts that are written.
* `Interval.chars_eq`, `Interval.wellFormed_duration`, `Interval.interval_duration`: their text is
  the text of the interval, they are well-formed, and they come to the interval.
* `Interval.checked?`: the text by arithmetic on words, if all results fit.
* `Interval.text_lossless`: words are written without overflow and read back as they were.
-/

namespace FilterSql

open NumberText (minusChars fractionChars)

namespace DurationPart

def ofInt (n : Int) (letter : Char) : DurationPart :=
  ⟨decide (n < 0), Nat.toDigits 10 n.natAbs, [], letter⟩

/-- The seconds of some microseconds. The sign is that of the microseconds, as the whole seconds
may be zero. -/
def ofMicros (micros : Int) : DurationPart where
  negative := decide (micros < 0)
  whole := Nat.toDigits 10 (micros.tdiv 1000000).natAbs
  fraction := Decimal.trimZeros (Decimal.padded 6 (micros.tmod 1000000).natAbs)
  letter := 'S'

theorem chars_ne_nil (p : DurationPart) : p.chars ≠ [] := by
  simp [chars]

theorem signed_natAbs (n : Int) : signed (decide (n < 0)) n.natAbs = n := by
  by_cases hn : n < 0
  · simp only [signed, hn, decide_true, if_true]
    omega
  · simp only [signed, hn, decide_false, Bool.false_eq_true, if_false]
    omega

theorem signed_mul (negative : Bool) (n k : ℕ) :
    signed negative (n * k) = signed negative n * k := by
  cases negative with
  | false => exact Int.natCast_mul n k
  | true => simp only [signed, if_true, Int.natCast_mul, Int.neg_mul]

/-! ## Whole numbers -/

theorem wellFormed_ofInt (n : Int) (letter : Char) : (ofInt n letter).WellFormed where
  whole_ne_nil := Nat.toDigits_ne_nil
  whole_digits _ := Decimal.isDigit_toDigits
  fraction_digits := nofun
  fraction_length := Nat.zero_le _
  fraction_last := nofun
  fraction_letter h := absurd rfl h

theorem intChars_eq (n : Int) :
    Decimal.intChars n = minusChars (decide (n < 0)) ++ Nat.toDigits 10 n.natAbs := by
  by_cases hn : n < 0 <;> simp [Decimal.intChars, minusChars, hn]

theorem chars_ofInt (n : Int) (letter : Char) :
    (ofInt n letter).chars = Decimal.intChars n ++ [letter] := by
  simp [ofInt, chars, intChars_eq, fractionChars]

theorem count_ofInt (n : Int) (letter : Char) : (ofInt n letter).count = n := by
  rw [count, ofInt, Decimal.digitsValue_toDigits, signed_natAbs]

theorem millionths_ofInt (n : Int) (letter : Char) :
    (ofInt n letter).millionths = n * 1000000 := by
  have hzero : Decimal.digitsValue [] = 0 := rfl
  rw [millionths, ofInt, Decimal.digitsValue_toDigits, hzero, Nat.zero_mul, Nat.add_zero,
    signed_mul, signed_natAbs]
  rfl

/-! ## Seconds -/

theorem natAbs_tmod_lt (micros : Int) : (micros.tmod 1000000).natAbs < 10 ^ 6 := by
  rw [Int.natAbs_tmod]
  exact Nat.mod_lt _ (by decide)

theorem length_padded_micros (micros : Int) :
    (Decimal.padded 6 (micros.tmod 1000000).natAbs).length = 6 :=
  Decimal.length_padded (by decide) (natAbs_tmod_lt micros)

theorem wellFormed_ofMicros (micros : Int) : (ofMicros micros).WellFormed where
  whole_ne_nil := Nat.toDigits_ne_nil
  whole_digits _ := Decimal.isDigit_toDigits
  fraction_digits _ hc := Decimal.isDigit_padded (Decimal.mem_of_mem_trimZeros hc)
  fraction_length := by
    rw [← length_padded_micros micros]
    exact Decimal.length_trimZeros_le _
  fraction_last := Decimal.getLast?_trimZeros _
  fraction_letter _ := rfl

theorem millionths_ofMicros (micros : Int) : (ofMicros micros).millionths = micros := by
  have hfraction := Decimal.digitsValue_trimZeros
    (Decimal.padded 6 (micros.tmod 1000000).natAbs)
  rw [length_padded_micros, Decimal.digitsValue_padded] at hfraction
  have hsum : (micros.tdiv 1000000).natAbs * 10 ^ 6 + (micros.tmod 1000000).natAbs =
      micros.natAbs := by
    rw [Int.natAbs_tdiv, Int.natAbs_tmod, Nat.mul_comm]
    exact Nat.div_add_mod _ _
  rw [millionths, ofMicros, Decimal.digitsValue_toDigits, hfraction, hsum, signed_natAbs]

/-- The whole seconds show the sign themselves unless they are zero. -/
theorem minusChars_micros (micros : Int) :
    (if micros < 0 ∧ micros.tdiv 1000000 = 0 then ['-'] else []) ++
        Decimal.intChars (micros.tdiv 1000000) =
      minusChars (decide (micros < 0)) ++ Nat.toDigits 10 (micros.tdiv 1000000).natAbs := by
  have hsum := Int.mul_tdiv_add_tmod micros 1000000
  have hlt := natAbs_tmod_lt micros
  by_cases hzero : micros.tdiv 1000000 = 0
  · by_cases hneg : micros < 0 <;> simp [hzero, hneg, minusChars, Decimal.intChars]
  · have hsign : micros.tdiv 1000000 < 0 ↔ micros < 0 := by omega
    rw [if_neg fun h => hzero h.2, List.nil_append, intChars_eq, decide_eq_decide.2 hsign]

theorem trimZeros_eq_nil_iff (micros : Int) :
    Decimal.trimZeros (Decimal.padded 6 (micros.tmod 1000000).natAbs) = [] ↔
      (micros.tmod 1000000).natAbs = 0 := by
  constructor
  · intro h
    have hvalue := Decimal.digitsValue_trimZeros (Decimal.padded 6 (micros.tmod 1000000).natAbs)
    rw [h, Decimal.digitsValue_padded] at hvalue
    rw [← hvalue]
    exact Nat.zero_mul _
  · intro h
    rw [h]
    decide

theorem chars_ofMicros (micros : Int) : (ofMicros micros).chars = Interval.secondChars micros := by
  have hsum := Int.mul_tdiv_add_tmod micros 1000000
  simp only [chars, ofMicros, ← minusChars_micros, Interval.secondChars, fractionChars,
    List.isEmpty_iff, trimZeros_eq_nil_iff]
  by_cases hzero : (micros.tmod 1000000).natAbs = 0
  · have hplain : ¬(micros < 0 ∧ micros.tdiv 1000000 = 0) := by omega
    simp only [if_pos hzero, if_neg hplain, List.nil_append, List.append_nil]
  · simp only [if_neg hzero, List.append_assoc]

end DurationPart

namespace Interval

open DurationPart Duration

/-- A part that is left out if it is zero. -/
def partOf (n : Int) (letter : Char) : List DurationPart :=
  if n = 0 then [] else [ofInt n letter]

def dateParts (i : Interval) : List DurationPart :=
  partOf (i.months.tdiv 12) 'Y' ++ partOf (i.months.tmod 12) 'M' ++ partOf i.days 'D'

/-- Seconds are left out if they are zero and not alone. -/
def secondParts (hours minutes micros : Int) : List DurationPart :=
  if micros ≠ 0 ∨ (hours = 0 ∧ minutes = 0) then [ofMicros micros] else []

def timeParts (micros : Int) : List DurationPart :=
  let hours := micros.tdiv 3600000000
  let rest := micros.tmod 3600000000
  let minutes := rest.tdiv 60000000
  let rest := rest.tmod 60000000
  partOf hours 'H' ++ partOf minutes 'M' ++ secondParts hours minutes rest

def duration (i : Interval) : Duration where
  date := i.dateParts
  time := if i.micros ≠ 0 ∨ i.dateParts = [] then timeParts i.micros else []

theorem partOf_eq_nil_iff {n : Int} {letter : Char} : partOf n letter = [] ↔ n = 0 := by
  rw [partOf]
  split <;> simp [*]

/-! ## Text -/

theorem chars_partOf (n : Int) (letter : Char) :
    (partOf n letter).flatMap DurationPart.chars = part n letter := by
  rw [partOf, part]
  split
  · rfl
  · rw [List.flatMap_singleton, chars_ofInt]

theorem chars_dateParts (i : Interval) :
    i.dateParts.flatMap DurationPart.chars = i.dateChars := by
  simp only [dateParts, List.flatMap_append, chars_partOf, dateChars]

theorem chars_timeParts (micros : Int) :
    (timeParts micros).flatMap DurationPart.chars = timeChars micros := by
  simp only [timeParts, List.flatMap_append, chars_partOf, timeChars, secondParts]
  split
  · rw [List.flatMap_singleton, chars_ofMicros]
  · rfl

theorem dateChars_eq_nil_iff (i : Interval) : i.dateChars = [] ↔ i.dateParts = [] := by
  rw [← chars_dateParts, List.flatMap_eq_nil_iff, List.eq_nil_iff_forall_not_mem]
  exact forall₂_congr fun p _ => iff_false_intro p.chars_ne_nil

theorem timeParts_ne_nil (micros : Int) : timeParts micros ≠ [] := by
  intro h
  simp only [timeParts, List.append_eq_nil_iff, partOf_eq_nil_iff] at h
  obtain ⟨hzero, hseconds⟩ := h
  rw [secondParts, if_pos (.inr hzero)] at hseconds
  cases hseconds

theorem chars_eq (i : Interval) : i.chars = i.duration.chars := by
  simp only [chars, dateChars_eq_nil_iff, duration, Duration.chars, chars_dateParts,
    Duration.timeChars]
  split
  · rw [if_neg (timeParts_ne_nil i.micros), chars_timeParts, List.cons_append]
  · rw [if_pos rfl, List.append_nil, List.append_nil]

/-! ## Form -/

theorem letters_partOf (n : Int) (letter : Char) :
    ((partOf n letter).map DurationPart.letter).Sublist [letter] := by
  rw [partOf]
  split
  · exact List.nil_sublist _
  · exact List.Sublist.refl _

theorem letters_secondParts (hours minutes micros : Int) :
    ((secondParts hours minutes micros).map DurationPart.letter).Sublist ['S'] := by
  rw [secondParts]
  split
  · exact List.Sublist.refl _
  · exact List.nil_sublist _

theorem wellFormed_partOf {n : Int} {letter : Char} : ∀ p ∈ partOf n letter, p.WellFormed := by
  intro p hp
  rw [partOf] at hp
  split at hp
  · cases hp
  · rw [List.mem_singleton.1 hp]
    exact wellFormed_ofInt n letter

theorem letters_dateParts (i : Interval) :
    (i.dateParts.map DurationPart.letter).Sublist dateLetters := by
  rw [dateParts, List.map_append, List.map_append]
  exact ((letters_partOf _ 'Y').append (letters_partOf _ 'M')).append (letters_partOf _ 'D')

theorem letters_timeParts (micros : Int) :
    ((timeParts micros).map DurationPart.letter).Sublist timeLetters := by
  rw [timeParts, List.map_append, List.map_append]
  exact ((letters_partOf _ 'H').append (letters_partOf _ 'M')).append (letters_secondParts _ _ _)

theorem wellFormed_timeParts (micros : Int) : ∀ p ∈ timeParts micros, p.WellFormed := by
  rw [timeParts, List.forall_mem_append, List.forall_mem_append]
  refine ⟨⟨wellFormed_partOf, wellFormed_partOf⟩, fun p hp => ?_⟩
  rw [secondParts] at hp
  split at hp
  · rw [List.mem_singleton.1 hp]
    exact wellFormed_ofMicros _
  · cases hp

theorem wellFormed_duration (i : Interval) : i.duration.WellFormed where
  date_letters := i.letters_dateParts
  time_letters := by
    rw [duration]
    split
    · exact letters_timeParts i.micros
    · exact List.nil_sublist _
  parts_ne_nil h := by
    rw [List.append_eq_nil_iff, duration] at h
    obtain ⟨hdate, htime⟩ := h
    rw [if_pos (.inr hdate)] at htime
    exact timeParts_ne_nil i.micros htime
  parts := by
    rw [List.forall_mem_append, duration, dateParts]
    simp only [List.forall_mem_append]
    refine ⟨⟨⟨wellFormed_partOf, wellFormed_partOf⟩, wellFormed_partOf⟩, ?_⟩
    split
    · exact wellFormed_timeParts i.micros
    · nofun

/-! ## Meaning -/

theorem total_append (size : Char → Int) (amount : DurationPart → Int)
    (parts more : List DurationPart) :
    total size amount (parts ++ more) = total size amount parts + total size amount more := by
  rw [total, List.map_append, List.sum_append, total, total]

theorem total_singleton (size : Char → Int) (amount : DurationPart → Int) (p : DurationPart) :
    total size amount [p] = size p.letter * amount p := by
  simp [total]

theorem total_count_partOf (size : Char → Int) (n : Int) (letter : Char) :
    total size count (partOf n letter) = size letter * n := by
  rw [partOf]
  split
  case isTrue h => rw [h, Int.mul_zero, total, List.map_nil, List.sum_nil]
  case isFalse => rw [total_singleton, count_ofInt, ofInt]

theorem total_millionths_partOf (size : Char → Int) (n : Int) (letter : Char) :
    total size millionths (partOf n letter) = size letter * (n * 1000000) := by
  rw [partOf]
  split
  case isTrue h => rw [h, Int.zero_mul, Int.mul_zero, total, List.map_nil, List.sum_nil]
  case isFalse => rw [total_singleton, millionths_ofInt, ofInt]

theorem total_secondParts (hours minutes micros : Int) :
    total secondsIn millionths (secondParts hours minutes micros) = micros := by
  rw [secondParts]
  split
  case isTrue =>
    rw [total_singleton, millionths_ofMicros]
    exact Int.one_mul micros
  case isFalse h =>
    obtain rfl : micros = 0 := not_not.1 (not_or.1 h).1
    rfl

theorem total_timeParts (micros : Int) :
    total secondsIn millionths (timeParts micros) = micros := by
  have hhours := Int.mul_tdiv_add_tmod micros 3600000000
  have hminutes := Int.mul_tdiv_add_tmod (micros.tmod 3600000000) 60000000
  simp only [timeParts, total_append, total_millionths_partOf, total_secondParts, secondsIn]
  omega

theorem total_months (i : Interval) : total monthsIn count i.dateParts = i.months := by
  have hmonths := Int.mul_tdiv_add_tmod i.months 12
  simp only [dateParts, total_append, total_count_partOf]
  show 12 * i.months.tdiv 12 + 1 * i.months.tmod 12 + 0 * i.days = i.months
  omega

theorem total_days (i : Interval) : total daysIn count i.dateParts = i.days := by
  simp only [dateParts, total_append, total_count_partOf]
  show 0 * i.months.tdiv 12 + 0 * i.months.tmod 12 + 1 * i.days = i.days
  omega

theorem total_time (i : Interval) :
    total secondsIn millionths i.duration.time = i.micros := by
  rw [duration]
  split
  case isTrue => exact total_timeParts i.micros
  case isFalse h =>
    have hzero : i.micros = 0 := not_not.1 (not_or.1 h).1
    rw [hzero]
    rfl

theorem interval_duration (i : Interval) : i.duration.interval = i := by
  rw [Duration.interval, total_time, duration, total_months, total_days]

theorem chars_inj {i j : Interval} : i.chars = j.chars ↔ i = j := by
  constructor
  · intro h
    rw [chars_eq, chars_eq] at h
    rw [← interval_duration i, ← interval_duration j,
      eq_of_chars_eq (wellFormed_duration i) (wellFormed_duration j) h]
  · rintro rfl
    rfl

/-! ## Arithmetic on words -/

/-- The number is one of so many bits, the first of them for its sign. -/
def Fits (bits : ℕ) (n : Int) : Prop := -2 ^ (bits - 1) ≤ n ∧ n < 2 ^ (bits - 1)

instance (bits : ℕ) (n : Int) : Decidable (Fits bits n) :=
  inferInstanceAs (Decidable (_ ∧ _))

def fit? (bits : ℕ) (n : Int) : Option Int := if Fits bits n then some n else none

def checkedSeconds? (micros : Int) : Option (List Char) := do
  let seconds ← fit? 64 (micros.tdiv 1000000)
  let fraction ← fit? 64 (micros.tmod 1000000)
  let fraction ← fit? 64 fraction.natAbs
  if fraction = 0 then return Decimal.intChars seconds ++ ['S']
  else return (if micros < 0 ∧ seconds = 0 then ['-'] else []) ++ Decimal.intChars seconds ++
    '.' :: Decimal.trimZeros (Decimal.padded 6 fraction.toNat) ++ ['S']

def checkedTime? (micros : Int) : Option (List Char) := do
  let hours ← fit? 64 (micros.tdiv 3600000000)
  let rest ← fit? 64 (micros.tmod 3600000000)
  let minutes ← fit? 64 (rest.tdiv 60000000)
  let rest ← fit? 64 (rest.tmod 60000000)
  let seconds ←
    if rest ≠ 0 ∨ (hours = 0 ∧ minutes = 0) then checkedSeconds? rest else some []
  return part hours 'H' ++ part minutes 'M' ++ seconds

def checkedDate? (i : Interval) : Option (List Char) := do
  let years ← fit? 32 (i.months.tdiv 12)
  let months ← fit? 32 (i.months.tmod 12)
  return part years 'Y' ++ part months 'M' ++ part i.days 'D'

/-- The text of an interval of 32 bits for months and days and 64 bits for microseconds, where
every result has to fit into as many. -/
def checked? (i : Interval) : Option (List Char) := do
  let date ← i.checkedDate?
  if i.micros ≠ 0 ∨ date = [] then
    let time ← checkedTime? i.micros
    return 'P' :: date ++ 'T' :: time
  else return 'P' :: date

variable {bits : ℕ} {n : Int}

theorem fit?_bind (h : Fits bits n) (next : Int → Option (List Char)) :
    (do let n ← fit? bits n; next n) = next n := by
  rw [fit?, if_pos h]
  rfl

/-- Whatever lies between zero and a number that fits does so too. -/
theorem Fits.of_between {m : Int} (hm : Fits bits m) (hle : n.natAbs ≤ m.natAbs)
    (hnonneg : 0 ≤ m → 0 ≤ n) (hnonpos : m ≤ 0 → n ≤ 0) : Fits bits n := by
  obtain ⟨hlow, hhigh⟩ := hm
  rcases Int.le_total 0 m with hm | hm
  · have hn := hnonneg hm
    exact ⟨by omega, by omega⟩
  · have hn := hnonpos hm
    exact ⟨by omega, by omega⟩

theorem Fits.tdiv (h : Fits bits n) {k : Int} (hk : 0 ≤ k) : Fits bits (n.tdiv k) := by
  refine h.of_between (Int.natAbs_tdiv_le_natAbs n k) (fun hn => Int.tdiv_nonneg hn hk)
    fun hn => ?_
  have hneg := Int.tdiv_nonneg (Int.neg_nonneg_of_nonpos hn) hk
  rw [Int.neg_tdiv] at hneg
  omega

theorem Fits.tmod (h : Fits bits n) (k : Int) : Fits bits (n.tmod k) := by
  refine h.of_between ?_ (fun hn => Int.tmod_nonneg k hn) fun hn => ?_
  · rw [Int.natAbs_tmod]
    exact Nat.mod_le _ _
  · have hneg := Int.tmod_nonneg k (Int.neg_nonneg_of_nonpos hn)
    rw [Int.neg_tmod] at hneg
    omega

/-- The absolute value is that of a fraction, so it fits where that of any number need not. -/
theorem fits_natAbs_tmod (micros : Int) : Fits 64 (micros.tmod 1000000).natAbs := by
  have hlt := natAbs_tmod_lt micros
  constructor <;> omega

theorem checkedSeconds?_eq {micros : Int} (h : Fits 64 micros) :
    checkedSeconds? micros = some (secondChars micros) := by
  rw [checkedSeconds?, fit?_bind (h.tdiv (by decide)), fit?_bind (h.tmod 1000000),
    fit?_bind (fits_natAbs_tmod micros), secondChars]
  by_cases hzero : (micros.tmod 1000000).natAbs = 0
  · simp only [if_pos hzero, if_pos (Int.natCast_eq_zero.2 hzero), Option.pure_def]
  · simp only [if_neg hzero, if_neg (mt Int.natCast_eq_zero.1 hzero), Option.pure_def,
      Int.toNat_natCast]

theorem checkedTime?_eq {micros : Int} (h : Fits 64 micros) :
    checkedTime? micros = some (timeChars micros) := by
  have hrest := h.tmod 3600000000
  have hseconds := hrest.tmod 60000000
  rw [checkedTime?, fit?_bind (h.tdiv (by decide)), fit?_bind hrest,
    fit?_bind (hrest.tdiv (by decide)), fit?_bind hseconds, checkedSeconds?_eq hseconds, timeChars]
  split <;> rfl

theorem checkedDate?_eq {i : Interval} (h : Fits 32 i.months) :
    i.checkedDate? = some i.dateChars := by
  rw [checkedDate?, fit?_bind (h.tdiv (by decide)), fit?_bind (h.tmod 12)]
  rfl

theorem checked?_eq {i : Interval} (hmonths : Fits 32 i.months) (hmicros : Fits 64 i.micros) :
    i.checked? = some i.chars := by
  rw [checked?, checkedDate?_eq hmonths, Option.bind_eq_bind, Option.bind_some,
    checkedTime?_eq hmicros, chars]
  by_cases htime : i.micros ≠ 0 ∨ i.dateChars = []
  · simp only [if_pos htime]
    rfl
  · simp only [if_neg htime, List.append_nil]
    rfl

/-! ## Words -/

def ofWords (months days : Int32) (micros : Int64) : Interval :=
  ⟨months.toInt, days.toInt, micros.toInt⟩

theorem ofWords_inj {months days months' days' : Int32} {micros micros' : Int64} :
    ofWords months days micros = ofWords months' days' micros' ↔
      months = months' ∧ days = days' ∧ micros = micros' := by
  rw [ofWords, ofWords, Interval.mk.injEq, Int32.toInt_inj, Int32.toInt_inj, Int64.toInt_inj]

/-- Words are written without overflow, as a well-formed duration that is read back as the same
words, and different words have different texts. -/
theorem text_lossless (months days : Int32) (micros : Int64) :
    (ofWords months days micros).checked? = some (ofWords months days micros).chars ∧
      (∃ d : Duration, d.WellFormed ∧ (ofWords months days micros).chars = d.chars ∧
        Duration.read? (ofWords months days micros).chars = some d ∧
        d.interval = ofWords months days micros) ∧
      ∀ months' days' micros',
        (ofWords months days micros).chars = (ofWords months' days' micros').chars ↔
          months = months' ∧ days = days' ∧ micros = micros' := by
  refine ⟨checked?_eq ⟨months.le_toInt, months.toInt_lt⟩ ⟨micros.le_toInt, micros.toInt_lt⟩,
    ⟨_, wellFormed_duration _, chars_eq _, ?_, interval_duration _⟩,
    fun months' days' micros' => ?_⟩
  · rw [chars_eq, read?_chars (wellFormed_duration _)]
  · rw [chars_inj, ofWords_inj]

end Interval
end FilterSql

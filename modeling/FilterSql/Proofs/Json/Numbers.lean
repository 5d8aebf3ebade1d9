import FilterSql.Json.Token
import FilterSql.Proofs.Decimal.Digits
import Mathlib.Algebra.Group.Int.Defs

/-!
# FilterSql.Proofs.Json.Numbers

The text of a number, whatever the number, is one that the grammar takes for a number.

* `NumberText`: the parts of such a text.
* `Number.exists_text`: every number is written as one.
* `NumberText.readNumber_chars`: reading it in front of other text.
* `Number.reread?`: what a written number is read as.
-/

namespace FilterSql

/-- An integer part, a fraction that is there if it has digits, and perhaps the sign and the digits
of an exponent. -/
structure NumberText where
  negative : Bool
  whole : List Char
  fraction : List Char
  power : Option (Bool × List Char)

namespace NumberText

def minusChars (negative : Bool) : List Char := if negative then ['-'] else []

def fractionChars (fraction : List Char) : List Char :=
  if fraction.isEmpty then [] else '.' :: fraction

def powerChars : Option (Bool × List Char) → List Char
  | none => []
  | some (negative, digits) => ['e', if negative then '-' else '+'] ++ digits

def chars (t : NumberText) : List Char :=
  minusChars t.negative ++ t.whole ++ fractionChars t.fraction ++ powerChars t.power

structure WellFormed (t : NumberText) : Prop where
  whole_ne_nil : t.whole ≠ []
  whole_digits : ∀ c ∈ t.whole, Decimal.isDigit c = true
  whole_head : t.whole.head? = some '0' → t.whole.length = 1
  fraction_digits : ∀ c ∈ t.fraction, Decimal.isDigit c = true
  power_ne_nil : ∀ p ∈ t.power, p.2 ≠ []
  power_digits : ∀ p ∈ t.power, ∀ c ∈ p.2, Decimal.isDigit c = true

def exponent? (t : NumberText) : Option Int :=
  t.power.map fun p => if p.1 then -(Decimal.digitsValue p.2 : Int) else Decimal.digitsValue p.2

def value? (t : NumberText) : Option Number :=
  Number.ofDigits? t.negative t.whole t.fraction t.exponent?

end NumberText

/-- A text that does not go on with what a number may go on with. -/
def EndsNumber (rest : List Char) : Prop :=
  ∀ c ∈ rest.head?, Decimal.isDigit c = false ∧ c ≠ '.' ∧ c ≠ 'e' ∧ c ≠ 'E'

theorem EndsNumber.endsDigits {rest : List Char} (h : EndsNumber rest) :
    Decimal.EndsDigits rest := fun c hc => (h c hc).1

/-! ## Reading -/

namespace NumberText

theorem endsDigits_power (power : Option (Bool × List Char)) {rest : List Char}
    (hr : EndsNumber rest) : Decimal.EndsDigits (powerChars power ++ rest) := by
  cases power with
  | none => exact hr.endsDigits
  | some p =>
    intro c hc
    obtain rfl : 'e' = c := by simpa [powerChars] using hc
    decide

theorem endsDigits_fraction (fraction : List Char) (power : Option (Bool × List Char))
    {rest : List Char} (hr : EndsNumber rest) :
    Decimal.EndsDigits (fractionChars fraction ++ (powerChars power ++ rest)) := by
  by_cases hf : fraction.isEmpty = true
  · rw [fractionChars, if_pos hf]
    exact endsDigits_power power hr
  · intro c hc
    obtain rfl : '.' = c := by simpa [fractionChars, hf] using hc
    decide

theorem readMinus_digits (negative : Bool) {digits : List Char} (rest : List Char)
    (hne : digits ≠ []) (hd : ∀ c ∈ digits, Decimal.isDigit c = true) :
    Json.Token.readMinus (minusChars negative ++ (digits ++ rest)) =
      (negative, digits ++ rest) := by
  cases negative with
  | true => rfl
  | false =>
    cases digits with
    | nil => exact absurd rfl hne
    | cons c more =>
      have hc : c ≠ '-' := by
        rintro rfl
        exact absurd (hd '-' (by simp)) (by decide)
      simp only [minusChars, Bool.false_eq_true, if_false, List.nil_append, List.cons_append]
      unfold Json.Token.readMinus
      split
      · rename_i heq
        exact absurd (List.cons.inj heq).1 hc
      · rfl

theorem readFraction_of_head {s : List Char} (h : ∀ c ∈ s.head?, c ≠ '.') :
    Json.Token.readFraction s = some ([], s) := by
  unfold Json.Token.readFraction
  split
  · exact absurd rfl (h '.' rfl)
  · rfl

theorem readFraction_chars {fraction rest : List Char} {power : Option (Bool × List Char)}
    (hf : ∀ c ∈ fraction, Decimal.isDigit c = true) (hr : EndsNumber rest) :
    Json.Token.readFraction (fractionChars fraction ++ (powerChars power ++ rest)) =
      some (fraction, powerChars power ++ rest) := by
  cases fraction with
  | nil =>
    apply readFraction_of_head
    intro c hc
    cases power with
    | none => exact (hr c hc).2.1
    | some p =>
      obtain rfl : 'e' = c := by simpa [fractionChars, powerChars] using hc
      decide
  | cons c more =>
    have hspan := Decimal.span_digits hf (endsDigits_power power hr)
    simp only [fractionChars, List.isEmpty_cons, Bool.false_eq_true, if_false, List.cons_append]
    rw [Json.Token.readFraction]
    rw [List.cons_append] at hspan
    rw [hspan]

theorem readPower_chars (negative : Bool) {digits rest : List Char} (hne : digits ≠ [])
    (hd : ∀ c ∈ digits, Decimal.isDigit c = true) (hr : EndsNumber rest) :
    Json.Token.readPower ((if negative then '-' else '+') :: (digits ++ rest)) =
      some (if negative then -(Decimal.digitsValue digits : Int) else Decimal.digitsValue digits,
        rest) := by
  have hspan := Decimal.span_digits hd hr.endsDigits
  obtain ⟨c, more, rfl⟩ := List.exists_cons_of_ne_nil hne
  rw [List.cons_append, List.span_eq_takeWhile_dropWhile, Prod.mk.injEq] at hspan
  cases negative with
  | true => simp [Json.Token.readPower, Json.Token.readMinus, hspan]
  | false => simp [Json.Token.readPower, hspan]

theorem readExponent_chars {power : Option (Bool × List Char)} {rest : List Char}
    (hne : ∀ p ∈ power, p.2 ≠ []) (hd : ∀ p ∈ power, ∀ c ∈ p.2, Decimal.isDigit c = true)
    (hr : EndsNumber rest) :
    Json.Token.readExponent (powerChars power ++ rest) =
      some (power.map fun p =>
        if p.1 then -(Decimal.digitsValue p.2 : Int) else Decimal.digitsValue p.2, rest) := by
  cases power with
  | none =>
    simp only [powerChars, List.nil_append, Option.map_none]
    unfold Json.Token.readExponent
    split
    · exact absurd rfl (hr 'e' rfl).2.2.1
    · exact absurd rfl (hr 'E' rfl).2.2.2
    · rfl
  | some p =>
    obtain ⟨negative, digits⟩ := p
    have hpower := readPower_chars negative (hne _ rfl) (hd _ rfl) hr
    simp only [powerChars, List.cons_append, List.nil_append, Json.Token.readExponent, hpower,
      Option.map_some]

theorem readNumber_chars {t : NumberText} (ht : t.WellFormed) {rest : List Char}
    (hr : EndsNumber rest) : Json.Token.readNumber (t.chars ++ rest) = some (t.value?, rest) := by
  have hminus := readMinus_digits t.negative
    (fractionChars t.fraction ++ (powerChars t.power ++ rest)) ht.whole_ne_nil
    ht.whole_digits
  have hwhole := Decimal.span_digits ht.whole_digits (endsDigits_fraction t.fraction t.power hr)
  have hform : (t.whole.isEmpty || (t.whole.head? == some '0' && 1 < t.whole.length)) = false := by
    have hhead := ht.whole_head
    have hne := ht.whole_ne_nil
    by_cases h0 : t.whole.head? = some '0'
    · simp [hne, hhead h0]
    · simp [hne, h0]
  simp only [chars, List.append_assoc, Json.Token.readNumber, hminus, hwhole, hform,
    Bool.false_eq_true, if_false, readFraction_chars ht.fraction_digits hr,
    readExponent_chars ht.power_ne_nil ht.power_digits hr]
  rfl

end NumberText

/-! ## Writing -/

namespace NumberText

def ofNat (negative : Bool) (n : Nat) : NumberText := ⟨negative, Nat.toDigits 10 n, [], none⟩

theorem wellFormed_ofNat (negative : Bool) (n : Nat) : (ofNat negative n).WellFormed where
  whole_ne_nil := Nat.toDigits_ne_nil
  whole_digits _ := Decimal.isDigit_toDigits
  whole_head := Decimal.length_toDigits_of_head
  fraction_digits c hc := by cases hc
  power_ne_nil p hp := by cases hp
  power_digits p hp := by cases hp

theorem isDigit_zero : Decimal.isDigit '0' = true := by decide

theorem isDigit_replicate_zero {n : Nat} {c : Char} (h : c ∈ List.replicate n '0') :
    Decimal.isDigit c = true := by
  rw [List.eq_of_mem_replicate h]
  exact isDigit_zero

theorem exists_plain (negative : Bool) {d : Decimal} (hd : d.digits = 0 → d.exponent = 0) :
    ∃ t : NumberText, t.WellFormed ∧ minusChars negative ++ d.plain = t.chars := by
  have hdigits : ∀ c ∈ Nat.toDigits 10 d.digits, Decimal.isDigit c = true :=
    fun _ => Decimal.isDigit_toDigits
  by_cases he : 0 ≤ d.exponent
  · refine ⟨⟨negative, Nat.toDigits 10 d.digits ++ List.replicate d.exponent.toNat '0', ['0'],
      none⟩, ⟨by simp, ?_, ?_, by simp [isDigit_zero], by simp, by simp⟩, ?_⟩
    · intro c hc
      rcases List.mem_append.1 hc with hc | hc
      · exact hdigits c hc
      · exact isDigit_replicate_zero hc
    -- A leading zero is that of zero itself, which has no more zeros behind it.
    · intro hhead
      have hzero : d.digits = 0 := by
        by_contra hne
        apply Decimal.head_toDigits_ne_zero hne
        cases hw : Nat.toDigits 10 d.digits with
        | nil => exact absurd hw Nat.toDigits_ne_nil
        | cons c more => simpa [hw] using hhead
      simp [hzero, hd hzero]
    · simp [Decimal.plain, he, chars, fractionChars, powerChars]
  -- The point stands among the digits, or in front of them all behind zeros.
  · by_cases hl : 0 ≤ d.leading
    · have hlen : d.leading.toNat + 1 < (Nat.toDigits 10 d.digits).length := by
        have hleading : d.leading = (Nat.toDigits 10 d.digits).length - 1 + d.exponent := rfl
        omega
      refine ⟨⟨negative, (Nat.toDigits 10 d.digits).take (d.leading.toNat + 1),
        (Nat.toDigits 10 d.digits).drop (d.leading.toNat + 1), none⟩, ⟨by simp, ?_, ?_, ?_, by simp,
        by simp⟩, ?_⟩
      · exact fun c hc => hdigits c (List.mem_of_mem_take hc)
      · intro hhead
        rw [List.head?_take, if_neg (by omega)] at hhead
        have hone := Decimal.length_toDigits_of_head hhead
        omega
      · exact fun c hc => hdigits c (List.mem_of_mem_drop hc)
      · have hne : ¬(Nat.toDigits 10 d.digits).length ≤ d.leading.toNat + 1 := by omega
        simp [Decimal.plain, he, hl, chars, fractionChars, powerChars, hne]
    · refine ⟨⟨negative, ['0'], List.replicate (-d.leading - 1).toNat '0' ++
        Nat.toDigits 10 d.digits, none⟩, ⟨by simp, by simp [isDigit_zero], by simp, ?_, by simp,
        by simp⟩, ?_⟩
      · intro c hc
        rcases List.mem_append.1 hc with hc | hc
        · exact isDigit_replicate_zero hc
        · exact hdigits c hc
      · simp [Decimal.plain, he, hl, chars, fractionChars, powerChars]

theorem exists_scientific (negative : Bool) (d : Decimal) :
    ∃ t : NumberText, t.WellFormed ∧ minusChars negative ++ d.scientific = t.chars := by
  have hdigits : ∀ c ∈ Nat.toDigits 10 d.digits, Decimal.isDigit c = true :=
    fun _ => Decimal.isDigit_toDigits
  refine ⟨⟨negative, (Nat.toDigits 10 d.digits).take 1, (Nat.toDigits 10 d.digits).drop 1,
    some (decide (d.leading < 0), Nat.toDigits 10 d.leading.natAbs)⟩,
    ⟨by simp, ?_, ?_, ?_, ?_, ?_⟩, ?_⟩
  · exact fun c hc => hdigits c (List.mem_of_mem_take hc)
  · intro _
    have hpos := Nat.length_toDigits_pos (b := 10) (n := d.digits)
    simp only [List.length_take]
    omega
  · exact fun c hc => hdigits c (List.mem_of_mem_drop hc)
  · rintro p ⟨⟩
    exact Nat.toDigits_ne_nil
  · rintro p ⟨⟩ c hc
    exact Decimal.isDigit_toDigits hc
  · simp [Decimal.scientific, chars, fractionChars, powerChars]

theorem exists_double (x : Double) : ∃ t : NumberText, t.WellFormed ∧ x.chars = t.chars := by
  have hzero : x.shortest.digits = 0 → x.shortest.exponent = 0 := by
    intro h
    cases hx : x.isZero with
    | true => rw [Double.shortest_of_isZero hx]
    | false => exact absurd h (Double.digits_shortest_ne_zero hx)
  show ∃ t : NumberText, t.WellFormed ∧
    minusChars x.isNegative ++ Double.layout.write x.shortest = t.chars
  rw [Decimal.Layout.write]
  split
  · exact exists_plain x.isNegative hzero
  · exact exists_scientific x.isNegative x.shortest

end NumberText

namespace Number

theorem chars_int (n : Int) : (Number.int n).chars =
    NumberText.chars (.ofNat (decide (n < 0)) n.natAbs) := by
  by_cases hn : 0 ≤ n
  · have habs : n.toNat = n.natAbs := by omega
    simp [Number.chars, Int.repr_eq_if, hn, habs, NumberText.chars, NumberText.ofNat,
      NumberText.minusChars, NumberText.fractionChars, NumberText.powerChars]
  · have habs : (-n).toNat = n.natAbs := by omega
    simp [Number.chars, Int.repr_eq_if, hn, habs, NumberText.chars, NumberText.ofNat,
      NumberText.minusChars, NumberText.fractionChars, NumberText.powerChars, Int.not_le.1 hn]

theorem exists_text (n : Number) : ∃ t : NumberText, t.WellFormed ∧ n.chars = t.chars := by
  cases n with
  | int n => exact ⟨_, NumberText.wellFormed_ofNat _ _, chars_int n⟩
  | float x => exact NumberText.exists_double x

/-! ## Reading back -/

/-- What a number is read as once it has been written; none beyond the finite range. -/
def reread? (n : Number) : Option Number := (Json.Token.readNumber n.chars).bind Prod.fst

theorem readNumber_number (n : Number) {rest : List Char} (hr : EndsNumber rest) :
    Json.Token.readNumber (n.chars ++ rest) = some (n.reread?, rest) := by
  obtain ⟨t, ht, hchars⟩ := Number.exists_text n
  have hend : EndsNumber [] := by simp [EndsNumber]
  have hself := NumberText.readNumber_chars ht hend
  rw [List.append_nil] at hself
  rw [Number.reread?, hchars, hself, NumberText.readNumber_chars ht hr]
  rfl

theorem takeDigits_eq {s : Nat} {digits : List Char}
    (h : Nat.ofDigitChars 10 digits s ≤ Decimal.max64) :
    Number.takeDigits s digits = (Nat.ofDigitChars 10 digits s, []) := by
  induction digits generalizing s with
  | nil => simp [Number.takeDigits]
  | cons c rest ih =>
    rw [Nat.ofDigitChars_cons] at h ⊢
    rw [Number.takeDigits]
    have hnext : 10 * s + Decimal.digitValue c ≤ Decimal.max64 :=
      Nat.le_trans (Decimal.le_ofDigitChars _ _) h
    rw [if_pos hnext]
    exact ih h

theorem reread?_int {n : Int} (hlow : -2 ^ 63 ≤ n) (hhigh : n < 2 ^ 64) :
    (Number.int n).reread? = some (.int n) := by
  have hmax : n.natAbs ≤ Decimal.max64 := by
    simp only [Decimal.max64, Nat.pow_eq]
    omega
  have hend : EndsNumber [] := by simp [EndsNumber]
  have hread := NumberText.readNumber_chars (NumberText.wellFormed_ofNat (decide (n < 0)) n.natAbs)
    hend
  -- All digits fit, so none is left over and the number stays an integer.
  have htake : Number.takeDigits 0 (Nat.toDigits 10 n.natAbs) = (n.natAbs, []) := by
    rw [takeDigits_eq] <;> rw [Nat.ofDigitChars_ten_toDigits]
    exact hmax
  rw [Number.reread?, chars_int]
  rw [List.append_nil] at hread
  rw [hread]
  simp only [NumberText.value?, NumberText.ofNat, NumberText.exponent?, Number.ofDigits?, htake,
    Option.map_none, List.isEmpty_nil, Option.isNone_none, Bool.and_self, if_true,
    Option.bind_some, Number.ofInteger]
  by_cases hn : n < 0
  · have hle : n.natAbs ≠ 0 ∧ n.natAbs ≤ Nat.pow 2 63 := by
      simp only [Nat.pow_eq]
      omega
    simp only [hn, decide_true, Bool.not_true, Bool.false_eq_true, if_false, if_pos hle]
    congr 2
    omega
  · simp only [hn, decide_false, Bool.not_false, if_true]
    congr 2
    omega

end Number
end FilterSql

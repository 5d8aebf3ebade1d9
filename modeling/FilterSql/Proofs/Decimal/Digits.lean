import FilterSql.Decimal.Bounded
import FilterSql.Decimal.Shortest
import Mathlib.Data.List.TakeDrop

/-!
# FilterSql.Proofs.Decimal.Digits

Digits in front of other text, and digits that are not all zero.

* `Decimal.span_digits`: what is read as digits ends where the digits end.
* `Double.digits_shortest_ne_zero`: only zero has the digit zero.
-/

namespace FilterSql
namespace Decimal

theorem isDigit_eq (c : Char) : isDigit c = c.isDigit := rfl

/-- A text that does not go on with a digit. -/
def EndsDigits (rest : List Char) : Prop := ∀ c ∈ rest.head?, isDigit c = false

theorem span_digits {digits rest : List Char} (hd : ∀ c ∈ digits, isDigit c = true)
    (hr : EndsDigits rest) : (digits ++ rest).span isDigit = (digits, rest) := by
  rw [List.span_eq_takeWhile_dropWhile, List.takeWhile_append_of_pos hd,
    List.dropWhile_append_of_pos hd]
  cases rest with
  | nil => simp
  | cons c more =>
    have hc : isDigit c = false := hr c rfl
    simp [hc]

/-! ## Digits of natural numbers -/

theorem isDigit_toDigits {n : Nat} {c : Char} (h : c ∈ Nat.toDigits 10 n) : isDigit c = true := by
  rw [isDigit_eq]
  exact Nat.isDigit_of_mem_toDigits (by decide) (by decide) h

theorem digitChar_ne_zero : ∀ n < 10, n ≠ 0 → Nat.digitChar n ≠ '0' := by decide

theorem head_toDigits_ne_zero {n : Nat} (h : n ≠ 0) : (Nat.toDigits 10 n).head? ≠ some '0' := by
  induction n using Nat.strongRecOn with
  | ind n ih =>
    by_cases hn : n < 10
    · rw [Nat.toDigits_of_lt_base hn]
      simpa using digitChar_ne_zero n hn h
    · rw [Nat.toDigits_of_base_le (by decide) (by omega), List.head?_append]
      have hrest := ih (n / 10) (by omega) (by omega)
      cases hd : Nat.toDigits 10 (n / 10) with
      | nil => exact absurd hd Nat.toDigits_ne_nil
      | cons c more =>
        rw [hd] at hrest
        simpa using hrest

theorem length_toDigits_of_head {n : Nat} (h : (Nat.toDigits 10 n).head? = some '0') :
    (Nat.toDigits 10 n).length = 1 := by
  by_cases hn : n = 0
  · subst hn; rfl
  · exact absurd h (head_toDigits_ne_zero hn)

/-- Further digits make no number smaller. -/
theorem le_ofDigitChars (n : Nat) (digits : List Char) : n ≤ Nat.ofDigitChars 10 digits n := by
  induction digits generalizing n with
  | nil => simp
  | cons c rest ih =>
    rw [Nat.ofDigitChars_cons]
    exact Nat.le_trans (by omega) (ih _)

end Decimal

/-! ## Shortest digits -/

namespace Decimal

theorem unit_at_pos (q g : Int) : 0 < (Grid.at q g).unit :=
  Nat.mul_pos (Nat.pow_pos (by decide)) (Nat.pow_pos (by decide))

theorem readsBack_zero {grid : Grid} {x : Double} (hu : 0 < grid.unit) (hx : x.mantissa ≠ 0) :
    grid.readsBack x 0 = false := by
  have hlow : 0 < (4 * x.mantissa - if x.isNarrowBelow then 1 else 2) * grid.unit := by
    apply Nat.mul_pos _ hu
    split <;> omega
  unfold Grid.readsBack
  simp only [Nat.mul_zero, Nat.zero_mul, Nat.not_lt_zero, decide_false, Bool.false_and]
  split
  · rw [decide_eq_false (by omega), Bool.false_and]
  · rfl

theorem pick_ne_zero {grid : Grid} {x : Double} {c : Nat} (hu : 0 < grid.unit)
    (hx : x.mantissa ≠ 0) (h : grid.pick? x = some c) : c ≠ 0 := by
  rintro rfl
  have hzero := readsBack_zero hu hx
  simp only [Grid.pick?] at h
  split at h
  case h_1 => cases h
  case h_2 hb ha => simp only [Option.some.injEq] at h; rw [h, hzero] at hb; cases hb
  case h_3 hb ha => simp at h
  case h_4 hb ha =>
    have hbelow : x.mantissa * grid.unit / grid.step ≠ 0 := by
      intro h0
      rw [h0, hzero] at hb
      cases hb
    split at h
    · exact hbelow (Option.some.inj h)
    · split at h
      · simp at h
      · split at h
        · exact hbelow (Option.some.inj h)
        · simp at h

theorem digits_strip_ne_zero {fuel : Nat} {d : Decimal} (h : d.digits ≠ 0) :
    (strip fuel d).digits ≠ 0 := by
  induction fuel generalizing d with
  | zero => exact h
  | succ fuel ih =>
    rw [strip]
    split
    case isTrue hd => exact ih (by show d.digits / 10 ≠ 0; omega)
    case isFalse => exact h

end Decimal

namespace Double

theorem digits_exactDecimal_ne_zero {x : Double} (hx : x.mantissa ≠ 0) :
    x.exactDecimal.digits ≠ 0 := by
  rw [exactDecimal]
  split
  · exact Nat.mul_ne_zero hx (Nat.pos_iff_ne_zero.1 (Nat.pow_pos (by decide)))
  · exact Nat.mul_ne_zero hx (Nat.pos_iff_ne_zero.1 (Nat.pow_pos (by decide)))

theorem shortest_of_isZero {x : Double} (hx : x.isZero = true) : x.shortest = ⟨0, 0⟩ := by
  simp [shortest, hx]

theorem digits_shortest_ne_zero {x : Double} (hx : x.isZero = false) : x.shortest.digits ≠ 0 := by
  have hm : x.mantissa ≠ 0 := by simpa [isZero] using hx
  rw [shortest, hx]
  apply Decimal.digits_strip_ne_zero
  cases hf : (List.range 17).findSome? fun (places : Nat) =>
      ((Decimal.Grid.at x.exponent (x.leading - places)).pick? x).map fun c =>
        (⟨c, x.leading - places⟩ : Decimal) with
  | none => exact digits_exactDecimal_ne_zero hm
  | some d =>
    obtain ⟨places, -, hpick⟩ := List.exists_of_findSome?_eq_some hf
    obtain ⟨c, hc, rfl⟩ := Option.map_eq_some_iff.1 hpick
    exact Decimal.pick_ne_zero (Decimal.unit_at_pos _ _) hm hc

end Double
end FilterSql

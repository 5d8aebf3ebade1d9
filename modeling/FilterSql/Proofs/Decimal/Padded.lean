import FilterSql.Decimal.Padded
import FilterSql.Proofs.Decimal.Digits
import Mathlib.Algebra.Group.Nat.Defs
import Mathlib.Data.List.DropRight

/-!
# FilterSql.Proofs.Decimal.Padded

The values of digits that have zeros put in front of them or cut off behind them.

* `Decimal.digitsValue_padded`, `Decimal.length_padded`: zeros in front change no value.
* `Decimal.exists_trimZeros_append`, `Decimal.getLast?_trimZeros`: what is cut off are zeros, all
  that there are at the end.
-/

namespace FilterSql
namespace Decimal

theorem digitsValue_eq (s : List Char) : digitsValue s = Nat.ofDigitChars 10 s 0 := rfl

@[simp] theorem digitsValue_toDigits (n : ℕ) : digitsValue (Nat.toDigits 10 n) = n :=
  Nat.ofDigitChars_ten_toDigits

theorem digitsValue_append_zeros (s : List Char) (k : ℕ) :
    digitsValue (s ++ List.replicate k '0') = digitsValue s * 10 ^ k := by
  rw [digitsValue_eq, Nat.ofDigitChars_append, Nat.ofDigitChars_replicate_zero, Nat.mul_comm,
    digitsValue_eq]

/-! ## Zeros in front -/

@[simp] theorem digitsValue_padded (width n : ℕ) : digitsValue (padded width n) = n := by
  rw [digitsValue_eq, padded, paddedIn, Nat.ofDigitChars_append, Nat.ofDigitChars_replicate_zero,
    Nat.mul_zero, Nat.ofDigitChars_ten_toDigits]

theorem length_padded {width n : ℕ} (hwidth : 0 < width) (hn : n < 10 ^ width) :
    (padded width n).length = width := by
  have hle : (Nat.toDigits 10 n).length ≤ width :=
    (Nat.length_toDigits_le_iff (by decide) hwidth).2 hn
  rw [padded, paddedIn, List.length_append, List.length_replicate]
  omega

theorem isDigit_padded {width n : ℕ} {c : Char} (h : c ∈ padded width n) : isDigit c = true := by
  rcases List.mem_append.1 h with h | h
  · rw [List.eq_of_mem_replicate h]
    decide
  · exact isDigit_toDigits h

/-! ## Zeros behind -/

theorem trimZeros_eq (s : List Char) : trimZeros s = s.rdropWhile (· == '0') := rfl

theorem exists_trimZeros_append (s : List Char) :
    ∃ k, trimZeros s ++ List.replicate k '0' = s := by
  have hzeros : ∀ c ∈ s.rtakeWhile (· == '0'), c = '0' := by
    intro c hc
    simpa using List.mem_rtakeWhile_imp hc
  refine ⟨(s.rtakeWhile (· == '0')).length, ?_⟩
  rw [trimZeros_eq, ← List.eq_replicate_iff.2 ⟨rfl, hzeros⟩]
  exact List.rdropWhile_append_rtakeWhile

theorem mem_of_mem_trimZeros {s : List Char} {c : Char} (h : c ∈ trimZeros s) : c ∈ s :=
  (List.rdropWhile_prefix _ s).subset h

theorem length_trimZeros_le (s : List Char) : (trimZeros s).length ≤ s.length :=
  (List.rdropWhile_prefix _ s).length_le

theorem getLast?_trimZeros (s : List Char) : (trimZeros s).getLast? ≠ some '0' := by
  rw [trimZeros_eq]
  by_cases hnil : s.rdropWhile (· == '0') = []
  · rw [hnil]
    nofun
  · rw [List.getLast?_eq_some_getLast hnil]
    intro h
    exact List.rdropWhile_last_not _ _ hnil (by rw [Option.some.inj h]; rfl)

/-- Digits behind the point mean the same without the zeros at their end. -/
theorem digitsValue_trimZeros (s : List Char) :
    digitsValue (trimZeros s) * 10 ^ (s.length - (trimZeros s).length) = digitsValue s := by
  obtain ⟨k, hk⟩ := exists_trimZeros_append s
  have hlength : s.length - (trimZeros s).length = k := by
    have := congrArg List.length hk
    rw [List.length_append, List.length_replicate] at this
    omega
  rw [hlength, ← digitsValue_append_zeros, hk]

end Decimal
end FilterSql

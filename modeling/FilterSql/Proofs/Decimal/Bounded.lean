import FilterSql.Proofs.Decimal.Digits
import FilterSql.Proofs.Text.Trimming

/-!
# FilterSql.Proofs.Decimal.Bounded

Which texts are read as natural numbers with a largest value.

* `Decimal.Writes`: how a natural number is written.
* `Decimal.readBounded_eq_ok_iff`: the texts that write a number within the bound are read, and no
  others.
* `Decimal.refuses_of_readBounded`: why a text is refused.
-/

namespace FilterSql
namespace Decimal

/-- An optional plus sign and one or more digits. Any zeros may be in front. -/
inductive Writes : List Char → Nat → Prop where
  | intro {sign digits : List Char} (hsign : sign = [] ∨ sign = ['+']) (hne : digits ≠ [])
    (hdigits : ∀ c ∈ digits, isDigit c = true) :
    Writes (sign ++ digits) (Nat.ofDigitChars 10 digits 0)

variable {s digits : List Char} {bound n m : Nat}

theorem isBlank_of_isDigit {c : Char} (h : isDigit c = true) : Text.isBlank c = false := by
  simp only [isDigit, Bool.and_eq_true, decide_eq_true_eq] at h
  rw [Bool.eq_false_iff]
  intro hblank
  simp only [Text.isBlank, Text.inRanges, Text.blankRanges, List.any_cons, List.any_nil,
    Bool.or_eq_true, Bool.and_eq_true, decide_eq_true_eq, Bool.or_false] at hblank
  omega

theorem Writes.noBlanks (h : Writes s n) : Text.NoBlanks s := by
  obtain ⟨hsign, -, hdigits⟩ := h
  intro c hc
  rcases List.mem_append.1 hc with hc | hc
  · rcases hsign with rfl | rfl
    · cases hc
    · cases List.mem_singleton.1 hc
      decide
  · exact isBlank_of_isDigit (hdigits c hc)

/-- Every number on the way is at most the last one, so that nothing is gained by looking at the
bound on the way. -/
theorem readDigits_eq_ok_iff (hn : n ≤ bound) :
    readDigits bound n digits = .ok m ↔
      (∀ c ∈ digits, isDigit c = true) ∧ Nat.ofDigitChars 10 digits n = m ∧ m ≤ bound := by
  induction digits generalizing n with
  | nil =>
    rw [readDigits, Except.ok.injEq]
    constructor
    · rintro rfl
      exact ⟨nofun, rfl, hn⟩
    · rintro ⟨-, hvalue, -⟩
      exact hvalue
  | cons c rest ih =>
    rw [readDigits, List.forall_mem_cons, Nat.ofDigitChars_cons]
    cases hc : isDigit c with
    | false => simp
    | true =>
      rw [Bool.not_true, if_neg Bool.false_ne_true]
      split
      case isTrue hlarge =>
        -- Whatever follows, the number stays beyond the bound.
        refine iff_of_false nofun ?_
        rintro ⟨-, rfl, hle⟩
        have hnext := le_ofDigitChars (10 * n + digitValue c) rest
        exact absurd (Nat.le_trans hnext hle) (Nat.not_le.2 hlarge)
      case isFalse hsmall =>
        rw [ih (Nat.not_lt.1 hsmall)]
        simp [digitValue]

theorem writes_iff_of_ne (h : s.head? ≠ some '+') :
    Writes s n ↔ s ≠ [] ∧ (∀ c ∈ s, isDigit c = true) ∧ Nat.ofDigitChars 10 s 0 = n := by
  constructor
  · rintro ⟨rfl | rfl, hne, hdigits⟩
    · exact ⟨hne, hdigits, rfl⟩
    · exact absurd rfl h
  · rintro ⟨hne, hdigits, rfl⟩
    exact .intro (.inl rfl) hne hdigits

theorem not_writes_nil : ¬ Writes [] n := by
  simp [writes_iff_of_ne (s := []) nofun]

theorem head_ne_plus (h : ∀ rest, s = '+' :: rest → False) : s.head? ≠ some '+' := by
  intro hhead
  obtain ⟨rest, hs⟩ := List.head?_eq_some_iff.1 hhead
  exact h rest hs

/-- A plus sign is no digit, so that it can only be the sign. -/
theorem writes_signed_iff :
    Writes ('+' :: digits) n ↔
      digits ≠ [] ∧ (∀ c ∈ digits, isDigit c = true) ∧ Nat.ofDigitChars 10 digits 0 = n := by
  constructor
  · generalize hs : '+' :: digits = s
    rintro ⟨rfl | rfl, hne, hdigits⟩
    · subst hs
      exact absurd (hdigits '+' List.mem_cons_self) (by decide)
    · cases hs
      exact ⟨hne, hdigits, rfl⟩
  · rintro ⟨hne, hdigits, rfl⟩
    exact .intro (.inr rfl) hne hdigits

theorem readDigits_zero_eq_ok_iff (hne : digits ≠ []) :
    readDigits bound 0 digits = .ok n ↔
      (digits ≠ [] ∧ (∀ c ∈ digits, isDigit c = true) ∧ Nat.ofDigitChars 10 digits 0 = n) ∧
        n ≤ bound := by
  rw [readDigits_eq_ok_iff (Nat.zero_le bound), ← and_assoc]
  exact and_congr_left fun _ => (and_iff_right hne).symm

/-- What is read is what is written, and a text that writes a larger number is refused like one that
writes none. -/
theorem readBounded_eq_ok_iff : readBounded bound s = .ok n ↔ Writes s n ∧ n ≤ bound := by
  unfold readBounded
  split
  case h_1 => simp [not_writes_nil]
  case h_2 => simp [writes_signed_iff]
  case h_3 digits hsigned =>
    have hne : digits ≠ [] := by
      rintro rfl
      exact hsigned rfl
    rw [readDigits_zero_eq_ok_iff hne, writes_signed_iff]
  case h_4 hempty _ hsigned =>
    rw [readDigits_zero_eq_ok_iff hempty, writes_iff_of_ne (head_ne_plus hsigned)]

/-! ## Refused texts -/

/-- Why a text is refused. A number beyond the bound is noticed before what follows it is looked
at. -/
inductive Refuses (bound : Nat) : List Char → ReadError → Prop where
  | empty : Refuses bound [] .empty
  | tooLarge {front : List Char} {n : Nat} (h : Writes front n) (hn : bound < n)
      (rest : List Char) : Refuses bound (front ++ rest) .tooLarge
  | badDigit {s : List Char} (hne : s ≠ []) (hbad : ∀ n, ¬ Writes s n)
      (hsmall : ∀ front n, front <+: s → Writes front n → n ≤ bound) : Refuses bound s .badDigit

theorem readDigits_eq_tooLarge_iff (hn : n ≤ bound) :
    readDigits bound n digits = .error .tooLarge ↔
      ∃ front, front <+: digits ∧ (∀ c ∈ front, isDigit c = true) ∧
        bound < Nat.ofDigitChars 10 front n := by
  induction digits generalizing n with
  | nil =>
    refine iff_of_false nofun ?_
    rintro ⟨front, hprefix, -, hlarge⟩
    cases List.prefix_nil.1 hprefix
    exact absurd hn (Nat.not_le.2 hlarge)
  | cons c rest ih =>
    have hcons : (∃ front, front <+: c :: rest ∧ (∀ c ∈ front, isDigit c = true) ∧
        bound < Nat.ofDigitChars 10 front n) ↔
        isDigit c = true ∧ ∃ front, front <+: rest ∧ (∀ c ∈ front, isDigit c = true) ∧
          bound < Nat.ofDigitChars 10 front (10 * n + digitValue c) := by
      constructor
      · rintro ⟨front, hprefix, hdigits, hlarge⟩
        cases front with
        | nil => exact absurd hn (Nat.not_le.2 hlarge)
        | cons d more =>
          obtain ⟨rfl, hmore⟩ := List.cons_prefix_cons.1 hprefix
          obtain ⟨hd, hdigits⟩ := List.forall_mem_cons.1 hdigits
          exact ⟨hd, more, hmore, hdigits, hlarge⟩
      · rintro ⟨hc, more, hmore, hdigits, hlarge⟩
        exact ⟨c :: more, List.cons_prefix_cons.2 ⟨rfl, hmore⟩,
          List.forall_mem_cons.2 ⟨hc, hdigits⟩, hlarge⟩
    rw [readDigits, hcons]
    cases isDigit c with
    | false => simp
    | true =>
      rw [Bool.not_true, if_neg Bool.false_ne_true]
      split
      case isTrue hlarge =>
        exact iff_of_true rfl ⟨rfl, [], List.nil_prefix, nofun, hlarge⟩
      case isFalse hsmall =>
        rw [ih (Nat.not_lt.1 hsmall)]
        exact (and_iff_right rfl).symm

theorem readDigits_ne_empty : readDigits bound n digits ≠ .error .empty := by
  induction digits generalizing n with
  | nil => nofun
  | cons c rest ih =>
    rw [readDigits]
    split
    · nofun
    · split
      · nofun
      · exact ih

theorem readBounded_eq_empty_iff : readBounded bound s = .error .empty ↔ s = [] := by
  unfold readBounded
  split
  case h_1 => simp
  case h_2 => simp
  case h_3 => simp [readDigits_ne_empty]
  case h_4 hempty _ _ => simpa [readDigits_ne_empty] using hempty

/-- No digits make zero, which is within every bound. -/
theorem ne_nil_of_lt_ofDigitChars (h : bound < Nat.ofDigitChars 10 digits 0) : digits ≠ [] := by
  rintro rfl
  exact Nat.not_lt_zero bound h

theorem tooLarge_of_ne (h : s.head? ≠ some '+') :
    (∃ front n, front <+: s ∧ Writes front n ∧ bound < n) ↔
      readDigits bound 0 s = .error .tooLarge := by
  rw [readDigits_eq_tooLarge_iff (Nat.zero_le bound)]
  have hhead {front : List Char} (hs : front <+: s) : front.head? ≠ some '+' := by
    obtain ⟨rest, rfl⟩ := hs
    intro hfront
    exact h (by simp [hfront])
  constructor
  · rintro ⟨front, n, hprefix, hwrites, hn⟩
    obtain ⟨-, hdigits, rfl⟩ := (writes_iff_of_ne (hhead hprefix)).1 hwrites
    exact ⟨front, hprefix, hdigits, hn⟩
  · rintro ⟨front, hprefix, hdigits, hn⟩
    have hwrites := (writes_iff_of_ne (hhead hprefix)).2
      ⟨ne_nil_of_lt_ofDigitChars hn, hdigits, rfl⟩
    exact ⟨front, _, hprefix, hwrites, hn⟩

theorem tooLarge_signed :
    (∃ front n, front <+: '+' :: digits ∧ Writes front n ∧ bound < n) ↔
      readDigits bound 0 digits = .error .tooLarge := by
  rw [readDigits_eq_tooLarge_iff (Nat.zero_le bound)]
  constructor
  · rintro ⟨front, n, hprefix, hwrites, hn⟩
    cases front with
    | nil => exact absurd hwrites not_writes_nil
    | cons d front =>
      obtain ⟨rfl, hfront⟩ := List.cons_prefix_cons.1 hprefix
      obtain ⟨-, hdigits, rfl⟩ := writes_signed_iff.1 hwrites
      exact ⟨front, hfront, hdigits, hn⟩
  · rintro ⟨front, hprefix, hdigits, hn⟩
    exact ⟨'+' :: front, _, List.cons_prefix_cons.2 ⟨rfl, hprefix⟩,
      writes_signed_iff.2 ⟨ne_nil_of_lt_ofDigitChars hn, hdigits, rfl⟩, hn⟩

theorem readBounded_eq_tooLarge_iff :
    readBounded bound s = .error .tooLarge ↔
      ∃ front n, front <+: s ∧ Writes front n ∧ bound < n := by
  unfold readBounded
  split
  case h_1 =>
    rw [tooLarge_of_ne (s := []) nofun, readDigits]
    simp
  case h_2 =>
    rw [tooLarge_signed, readDigits]
    simp
  case h_3 => rw [tooLarge_signed]
  case h_4 hsigned => rw [tooLarge_of_ne (head_ne_plus hsigned)]

theorem refuses_of_readBounded {e : ReadError} (h : readBounded bound s = .error e) :
    Refuses bound s e := by
  cases e with
  | empty =>
    cases readBounded_eq_empty_iff.1 h
    exact .empty
  | tooLarge =>
    obtain ⟨front, n, ⟨rest, rfl⟩, hwrites, hn⟩ := readBounded_eq_tooLarge_iff.1 h
    exact .tooLarge hwrites hn rest
  | badDigit =>
    have hsmall : ∀ front n, front <+: s → Writes front n → n ≤ bound := by
      intro front n hprefix hwrites
      by_contra hn
      have hlarge := readBounded_eq_tooLarge_iff.2
        ⟨front, n, hprefix, hwrites, Nat.not_le.1 hn⟩
      cases h.symm.trans hlarge
    refine .badDigit ?_ (fun n hwrites => ?_) hsmall
    · rintro rfl
      cases h.symm.trans (readBounded_eq_empty_iff.2 rfl)
    · have hn := hsmall s n (List.prefix_refl s) hwrites
      cases h.symm.trans (readBounded_eq_ok_iff.2 ⟨hwrites, hn⟩)

end Decimal
end FilterSql

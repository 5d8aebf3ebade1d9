import FilterSql.Json.Printer
import FilterSql.Proofs.Json.Numbers
import Mathlib.Data.List.Chain

/-!
# FilterSql.Proofs.Json.Tokens

Tokens that are written one after another are read one by one.

* `Token.readString_stringChars`: no character of a string is lost or ends it.
* `Token.readToken_chars`: one token in front of other text.
* `Token.ofText?_flatMap_chars`: a whole text.
-/

namespace FilterSql
namespace Json
namespace Token

/-! ## Strings -/

theorem readHex_append {s : List Char} {n : Nat} (h : readHex s = some (n, [])) (rest : List Char) :
    readHex (s ++ rest) = some (n, rest) := by
  unfold readHex at h
  split at h
  case h_1 a b c d more =>
    simp only [List.cons_append, readHex]
    split at h
    case h_1 ha hb hc hd =>
      simp only [Option.some.injEq, Prod.mk.injEq] at h
      obtain ⟨rfl, rfl⟩ := h
      rfl
    case h_2 => cases h
  case h_2 => cases h

theorem readHex_control : ∀ n < 0x20, readHex (Decimal.paddedIn 16 4 n) = some (n, []) := by
  decide

theorem readUnicode_control {c : Char} (hc : c.toNat < 0x20) (rest : List Char) :
    readUnicode (Decimal.paddedIn 16 4 c.toNat ++ rest) = some (some c, rest) := by
  rw [readUnicode, readHex_append (readHex_control _ hc)]
  have hlow : (decide (c.toNat < 0xD800) || decide (0xE000 ≤ c.toNat)) = true := by
    simp only [Bool.or_eq_true, decide_eq_true_eq]
    omega
  simp only [hlow, if_true, Char.ofNat_toNat]

theorem readChar_plain {c : Char} (hslash : c ≠ '\\') (hc : 0x20 ≤ c.toNat) (rest : List Char) :
    readChar (c :: rest) = some (some c, rest) := by
  unfold readChar
  split
  case h_1 heq => cases heq
  case h_2 heq => exact absurd (List.cons.inj heq).1 hslash
  case h_3 heq => exact absurd (List.cons.inj heq).1 hslash
  case h_4 heq => exact absurd (List.cons.inj heq).1 hslash
  case h_5 heq =>
    obtain ⟨rfl, rfl⟩ := List.cons.inj heq
    rw [if_neg (by omega)]

theorem readChar_escape (c : Char) (rest : List Char) :
    readChar (escape c ++ rest) = some (some c, rest) := by
  rw [escape]
  split
  · rename_i h; rw [beq_iff_eq.1 h]; rfl
  split
  · rename_i h; rw [beq_iff_eq.1 h]; rfl
  split
  · rename_i h; rw [beq_iff_eq.1 h]; rfl
  split
  · rename_i h; rw [beq_iff_eq.1 h]; rfl
  split
  · rename_i h; rw [beq_iff_eq.1 h]; rfl
  split
  · rename_i h; rw [beq_iff_eq.1 h]; rfl
  split
  · rename_i h; rw [beq_iff_eq.1 h]; rfl
  split
  case isTrue hc => exact readUnicode_control hc rest
  case isFalse hslash _ _ _ _ _ hc =>
    exact readChar_plain (by simpa using hslash) (by omega) rest

theorem head_escape (c : Char) : ∃ first more, escape c = first :: more ∧ first ≠ '"' := by
  by_cases hquote : c = '"'
  · subst hquote
    exact ⟨'\\', ['"'], rfl, by decide⟩
  · rw [escape, if_neg (by simpa using hquote)]
    repeat' split
    all_goals first
      | exact ⟨_, _, rfl, hquote⟩
      | exact ⟨'\\', _, rfl, by decide⟩

theorem readString_escape (fuel : Nat) (c : Char) (rest : List Char) :
    readString (fuel + 1) (escape c ++ rest) =
      (readString fuel rest).map fun r => (some c :: r.1, r.2) := by
  obtain ⟨first, more, hescape, hquote⟩ := head_escape c
  have hread := readChar_escape c rest
  rw [hescape, List.cons_append] at hread ⊢
  rw [readString]
  · rw [hread]
  · intro other heq
    exact hquote (List.cons.inj heq).1

theorem readString_flatMap_escape {fuel : Nat} {s : List Char} (h : s.length < fuel)
    (rest : List Char) :
    readString fuel (s.flatMap escape ++ '"' :: rest) = some (s.map some, rest) := by
  induction s generalizing fuel with
  | nil =>
    cases fuel with
    | zero => cases h
    | succ fuel => rfl
  | cons c more ih =>
    cases fuel with
    | zero => cases h
    | succ fuel =>
      rw [List.flatMap_cons, List.append_assoc, readString_escape, ih (by simpa using h)]
      rfl

theorem textOf?_map_some (s : List Char) : textOf? (s.map some) = some (String.ofList s) := by
  simp [textOf?, List.filterMap_map]

theorem length_le_flatMap_escape (s : List Char) : s.length ≤ (s.flatMap escape).length := by
  induction s with
  | nil => simp
  | cons c rest ih =>
    obtain ⟨first, more, hescape, -⟩ := head_escape c
    rw [List.flatMap_cons, hescape]
    simp only [List.length_cons, List.length_append]
    omega

theorem readString_stringChars (s : String) {fuel : Nat} {rest : List Char}
    (h : (stringChars s ++ rest).length ≤ fuel) :
    readString fuel ((stringChars s).tail ++ rest) = some (s.toList.map some, rest) := by
  have hlen := length_le_flatMap_escape s.toList
  simp only [stringChars, List.cons_append, List.append_assoc, List.length_cons,
    List.length_append] at h
  simp only [stringChars, List.cons_append, List.tail_cons, List.append_assoc, List.nil_append]
  exact readString_flatMap_escape (by omega) rest

/-! ## Tokens -/

/-- What a written token is read as: all but the numbers stay as they are. -/
def reread : Token → Token
  | .num (some n) => .num n.reread?
  | t => t

/-- Whether a token has a value, and with it a written form. -/
def hasValue : Token → Bool
  | .num none | .str none => false
  | _ => true

def isNumber : Token → Bool
  | .num _ => true
  | _ => false

theorem chars_number_head (n : Number) :
    ∃ first more, n.chars = first :: more ∧ (first = '-' ∨ Decimal.isDigit first = true) := by
  obtain ⟨t, ht, hchars⟩ := Number.exists_text n
  obtain ⟨c, digits, hwhole⟩ := List.exists_cons_of_ne_nil ht.whole_ne_nil
  rw [hchars, NumberText.chars, hwhole]
  cases t.negative with
  | true => exact ⟨'-', _, rfl, .inl rfl⟩
  | false => exact ⟨c, _, rfl, .inr (ht.whole_digits c (by simp [hwhole]))⟩

theorem readToken_number {fuel : Nat} {c : Char} {more : List Char}
    (hc : c = '-' ∨ Decimal.isDigit c = true) :
    readToken fuel (c :: more) = (readNumber (c :: more)).map fun r => (.num r.1, r.2) := by
  -- Neither a minus nor a digit opens any other token.
  unfold readToken
  split
  case h_11 => rfl
  all_goals
    rename_i heq
    rw [(List.cons.inj heq).1] at hc
    exact absurd hc (by decide)

theorem readToken_chars {fuel : Nat} {t : Token} {rest : List Char} (ht : t.hasValue = true)
    (hr : t.isNumber = true → EndsNumber rest) (hf : (t.chars ++ rest).length ≤ fuel) :
    readToken fuel (t.chars ++ rest) = some (t.reread, rest) := by
  cases t with
  | openArr => rfl
  | closeArr => rfl
  | openObj => rfl
  | closeObj => rfl
  | comma => rfl
  | colon => rfl
  | null => rfl
  | bool b => cases b <;> rfl
  | num n =>
    cases n with
    | none => cases ht
    | some n =>
      obtain ⟨first, more, hchars, hfirst⟩ := chars_number_head n
      have hread := Number.readNumber_number n (hr rfl)
      rw [chars, reread]
      rw [hchars, List.cons_append] at hread ⊢
      rw [readToken_number hfirst, hread]
      rfl
  | str s =>
    cases s with
    | none => cases ht
    | some s =>
      have hread := readString_stringChars s hf
      show (readString fuel ((stringChars s).tail ++ rest)).map _ = _
      rw [hread]
      simp [textOf?_map_some, reread]

/-! ## Texts -/

/-- Tokens that can be told apart again once they are written: all of them have a written form, and
no number stands behind another one, of which it would become a part. -/
structure Readable (tokens : List Token) : Prop where
  hasValue : ∀ t ∈ tokens, t.hasValue = true
  spaced : tokens.IsChain fun a b => a.isNumber = true → b.isNumber = false

theorem readable_nil : Readable [] := ⟨by simp, .nil⟩

theorem Readable.cons {t : Token} {rest : List Token} (h : Readable rest)
    (ht : t.hasValue = true)
    (hn : t.isNumber = true → ∀ u ∈ rest.head?, u.isNumber = false) : Readable (t :: rest) where
  hasValue := List.forall_mem_cons.2 ⟨ht, h.hasValue⟩
  spaced := List.isChain_cons.2 ⟨fun u hu htn => hn htn u hu, h.spaced⟩

theorem Readable.tail {t : Token} {rest : List Token} (h : Readable (t :: rest)) :
    Readable rest where
  hasValue u hu := h.hasValue u (by simp [hu])
  spaced := (List.isChain_cons.1 h.spaced).2

theorem isSpace_of_isDigit {c : Char} (h : Decimal.isDigit c = true) : isSpace c = false := by
  by_contra hs
  simp only [isSpace, Bool.not_eq_false, Bool.or_eq_true, beq_iff_eq] at hs
  rcases hs with ((rfl | rfl) | rfl) | rfl <;> exact absurd h (by decide)

theorem head_chars {t : Token} (ht : t.hasValue = true) :
    ∃ first more, t.chars = first :: more ∧ isSpace first = false ∧
      (t.isNumber = false →
        Decimal.isDigit first = false ∧ first ≠ '.' ∧ first ≠ 'e' ∧ first ≠ 'E') := by
  cases t with
  | openArr => exact ⟨_, _, rfl, by decide, fun _ => by decide⟩
  | closeArr => exact ⟨_, _, rfl, by decide, fun _ => by decide⟩
  | openObj => exact ⟨_, _, rfl, by decide, fun _ => by decide⟩
  | closeObj => exact ⟨_, _, rfl, by decide, fun _ => by decide⟩
  | comma => exact ⟨_, _, rfl, by decide, fun _ => by decide⟩
  | colon => exact ⟨_, _, rfl, by decide, fun _ => by decide⟩
  | null => exact ⟨'n', _, rfl, by decide, fun _ => by decide⟩
  | bool b =>
    cases b with
    | true => exact ⟨'t', _, rfl, by decide, fun _ => by decide⟩
    | false => exact ⟨'f', _, rfl, by decide, fun _ => by decide⟩
  | num n =>
    cases n with
    | none => cases ht
    | some n =>
      obtain ⟨first, more, hchars, hfirst⟩ := chars_number_head n
      refine ⟨first, more, hchars, ?_, fun hn => by cases hn⟩
      rcases hfirst with rfl | hdigit
      · decide
      · exact isSpace_of_isDigit hdigit
  | str s =>
    cases s with
    | none => cases ht
    | some s => exact ⟨'"', _, rfl, by decide, fun _ => by decide⟩

theorem readAll_chars_append {fuel : Nat} {t : Token} {rest : List Char} (ht : t.hasValue = true)
    (hr : t.isNumber = true → EndsNumber rest) (hf : (t.chars ++ rest).length ≤ fuel) :
    readAll (fuel + 1) (t.chars ++ rest) = (readAll fuel rest).map (t.reread :: ·) := by
  obtain ⟨first, more, hchars, hspace, -⟩ := head_chars ht
  have hread := readToken_chars ht hr hf
  rw [hchars, List.cons_append] at hread ⊢
  rw [readAll, List.dropWhile_cons_of_neg (by simp [hspace])]
  simp only [hread]

theorem Readable.endsNumber {t : Token} {rest : List Token} (h : Readable (t :: rest))
    (hn : t.isNumber = true) : EndsNumber (rest.flatMap chars) := by
  intro c hc
  cases rest with
  | nil => cases hc
  | cons u others =>
    obtain ⟨first, more, hchars, -, hfirst⟩ := head_chars (h.hasValue u (by simp))
    have hu : u.isNumber = false := (List.isChain_cons_cons.1 h.spaced).1 hn
    rw [List.flatMap_cons, hchars] at hc
    obtain rfl : first = c := by simpa using hc
    exact hfirst hu

theorem readAll_flatMap_chars {fuel : Nat} {tokens : List Token} (h : Readable tokens)
    (hf : (tokens.flatMap chars).length < fuel) :
    readAll fuel (tokens.flatMap chars) = some (tokens.map reread) := by
  induction tokens generalizing fuel with
  | nil =>
    cases fuel with
    | zero => cases hf
    | succ fuel => rfl
  | cons t rest ih =>
    cases fuel with
    | zero => cases hf
    | succ fuel =>
      have ht := h.hasValue t (by simp)
      obtain ⟨first, more, hchars, -, -⟩ := head_chars ht
      have hlen : (chars t ++ rest.flatMap chars).length ≤ fuel := by
        rw [List.flatMap_cons] at hf
        omega
      have hshort : (rest.flatMap chars).length < fuel := by
        rw [hchars, List.cons_append, List.length_cons, List.length_append] at hlen
        omega
      rw [List.flatMap_cons, readAll_chars_append ht h.endsNumber hlen, ih h.tail hshort]
      rfl

/-- Written tokens are read as they are, except for the numbers. -/
theorem ofText?_flatMap_chars {tokens : List Token} (h : Readable tokens) :
    ofText? (tokens.flatMap chars) = some (tokens.map reread) :=
  readAll_flatMap_chars h (Nat.lt_succ_self _)

end Token
end Json
end FilterSql

import FilterSql.Text.Blank
import FilterSql.Text.Cut
import Mathlib.Data.List.Basic
import Mathlib.Data.List.TakeWhile

/-!
# FilterSql.Proofs.Text.Trimming

Blanks around a text, the last word of a text, and the end of a text.

* `Text.exists_trim`, `Text.trim_padded`: a text is its trimmed part with blanks on both sides.
* `Text.trimmed_eq_iff`: the same as one statement of both.
* `Text.cutLast?_eq_some`: where a text is cut.
* `Text.stripSuffix?_eq_some_iff`: when a text ends with another.
-/

namespace FilterSql
namespace Text

/-! ## Blanks -/

def Blanks (s : List Char) : Prop := ∀ c ∈ s, isBlank c = true

def NoBlanks (s : List Char) : Prop := ∀ c ∈ s, isBlank c = false

/-- No blank stands at the end. -/
def EndsPlain (s : List Char) : Prop := ∀ c ∈ s.getLast?, isBlank c = false

/-- No blank stands at either end. -/
structure Trimmed (s : List Char) : Prop where
  head : ∀ c ∈ s.head?, isBlank c = false
  last : EndsPlain s

instance (s : List Char) : Decidable (Blanks s) :=
  decidable_of_iff (s.all isBlank = true) List.all_eq_true

instance (s : List Char) : Decidable (NoBlanks s) :=
  decidable_of_iff (s.any isBlank = false) (by simp [NoBlanks])

instance (s : List Char) : Decidable (EndsPlain s) :=
  decidable_of_iff (s.getLast?.any isBlank = false) (by
    rw [EndsPlain]
    cases s.getLast? <;> simp)

instance (s : List Char) : Decidable (Trimmed s) :=
  decidable_of_iff (s.head?.any isBlank = false ∧ EndsPlain s) (by
    constructor
    · rintro ⟨hhead, hlast⟩
      refine ⟨fun c hc => ?_, hlast⟩
      rwa [Option.mem_def.1 hc] at hhead
    · rintro ⟨hhead, hlast⟩
      refine ⟨?_, hlast⟩
      cases h : s.head? with
      | none => rfl
      | some c => exact hhead c h)

theorem blanks_nil : Blanks [] := nofun

theorem Blanks.append {a b : List Char} (ha : Blanks a) (hb : Blanks b) : Blanks (a ++ b) := by
  intro c hc
  rcases List.mem_append.1 hc with h | h
  · exact ha c h
  · exact hb c h

theorem EndsPlain.append_left {t : List Char} (h : EndsPlain t) (hne : t ≠ []) (s : List Char) :
    EndsPlain (s ++ t) := by
  rwa [EndsPlain, List.getLast?_append_of_ne_nil _ hne]

theorem NoBlanks.endsPlain {s : List Char} (h : NoBlanks s) : EndsPlain s :=
  fun c hc => h c (List.mem_of_getLast? hc)

theorem NoBlanks.trimmed {s : List Char} (h : NoBlanks s) : Trimmed s :=
  ⟨fun c hc => h c (List.mem_of_head? hc), h.endsPlain⟩

theorem Trimmed.append {s t : List Char} (hs : Trimmed s) (hne : s ≠ [])
    (h : EndsPlain (s ++ t)) : Trimmed (s ++ t) :=
  ⟨by rw [List.head?_append_of_ne_nil _ hne]; exact hs.head, h⟩

/-- Blanks are no letters, so the case of letters does not matter to them. -/
theorem toLower_of_isBlank {c : Char} (h : isBlank c = true) : c.toLower = c := by
  have hletter : ¬ (c.val ≥ 'A'.val ∧ c.val ≤ 'Z'.val) := by
    rintro ⟨hlow, hhigh⟩
    have hlow : 65 ≤ c.toNat := hlow
    have hhigh : c.toNat ≤ 90 := hhigh
    simp only [isBlank, inRanges, blankRanges, List.any_cons, List.any_nil, Bool.or_eq_true,
      Bool.and_eq_true, decide_eq_true_eq, Bool.or_false] at h
    omega
  exact dif_neg hletter

/-- A text that is some word in whatever case has no blanks if the word has none. -/
theorem noBlanks_of_sameWord {s word : List Char} (h : sameWord s word = true)
    (hword : (word.map Char.toLower).all (fun c => !isBlank c) = true) : NoBlanks s := by
  intro c hc
  cases hblank : isBlank c with
  | false => rfl
  | true =>
    have hmem : c.toLower ∈ word.map Char.toLower := eq_of_beq h ▸ List.mem_map_of_mem hc
    have hplain := List.all_eq_true.1 hword _ hmem
    rw [toLower_of_isBlank hblank, hblank] at hplain
    cases hplain

/-! ## Trimming -/

variable {s : List Char}

theorem trimStart_append {blanks : List Char} (h : Blanks blanks) (s : List Char) :
    trimStart (blanks ++ s) = trimStart s :=
  List.dropWhile_append_of_pos h

theorem trimStart_of_head (h : ∀ c ∈ s.head?, isBlank c = false) : trimStart s = s := by
  cases s with
  | nil => rfl
  | cons c r => rw [trimStart, List.dropWhile_cons_of_neg (by simpa using h c rfl)]

theorem head_trimStart (s : List Char) : ∀ c ∈ (trimStart s).head?, isBlank c = false := by
  intro c hc
  have hfirst := List.head?_dropWhile_not isBlank s
  rw [trimStart, Option.mem_def] at hc
  rwa [hc] at hfirst

theorem exists_trimStart (s : List Char) : ∃ blanks, Blanks blanks ∧ s = blanks ++ trimStart s :=
  ⟨s.takeWhile isBlank, List.all_eq_true.1 List.all_takeWhile,
    List.takeWhile_append_dropWhile.symm⟩

theorem trimEnd_eq (s : List Char) : trimEnd s = (trimStart s.reverse).reverse := rfl

theorem trimEnd_append (s : List Char) {blanks : List Char} (h : Blanks blanks) :
    trimEnd (s ++ blanks) = trimEnd s := by
  have hreverse : Blanks blanks.reverse := fun c hc => h c (List.mem_reverse.1 hc)
  rw [trimEnd_eq, List.reverse_append, trimStart_append hreverse, ← trimEnd_eq]

theorem trimEnd_of_endsPlain (h : EndsPlain s) : trimEnd s = s := by
  rw [trimEnd_eq, trimStart_of_head (by rwa [List.head?_reverse]), List.reverse_reverse]

theorem endsPlain_trimEnd (s : List Char) : EndsPlain (trimEnd s) := by
  intro c hc
  rw [trimEnd_eq, List.getLast?_reverse] at hc
  exact head_trimStart s.reverse c hc

theorem exists_trimEnd (s : List Char) : ∃ blanks, Blanks blanks ∧ s = trimEnd s ++ blanks := by
  obtain ⟨blanks, hblanks, hs⟩ := exists_trimStart s.reverse
  refine ⟨blanks.reverse, fun c hc => hblanks c (List.mem_reverse.1 hc), ?_⟩
  rw [trimEnd_eq, ← List.reverse_append, ← hs, List.reverse_reverse]

/-- What is in front of a text does not begin with a blank if the whole does not. -/
theorem trimmed_of_append {t : List Char} (h : ∀ c ∈ (s ++ t).head?, isBlank c = false)
    (hs : EndsPlain s) : Trimmed s := by
  refine ⟨?_, hs⟩
  cases s with
  | nil => exact nofun
  | cons c r => exact h

theorem trimmed_trim (s : List Char) : Trimmed (trim s) := by
  obtain ⟨blanks, -, hs⟩ := exists_trimEnd (trimStart s)
  have hhead := head_trimStart s
  rw [hs] at hhead
  exact trimmed_of_append hhead (endsPlain_trimEnd _)

theorem trimmed_of_trim {front back : List Char} (h : trim s = front ++ back)
    (hfront : EndsPlain front) : Trimmed front :=
  trimmed_of_append (h ▸ (trimmed_trim s).head) hfront

theorem exists_trim (s : List Char) :
    ∃ before after, Blanks before ∧ Blanks after ∧ s = before ++ (trim s ++ after) := by
  obtain ⟨before, hbefore, hs⟩ := exists_trimStart s
  obtain ⟨after, hafter, hrest⟩ := exists_trimEnd (trimStart s)
  exact ⟨before, after, hbefore, hafter, by rw [trim, ← hrest, ← hs]⟩

theorem trim_padded {before after : List Char} (hbefore : Blanks before) (hs : Trimmed s)
    (hafter : Blanks after) : trim (before ++ (s ++ after)) = s := by
  rw [trim, trimStart_append hbefore]
  cases s with
  | nil => rw [List.nil_append, trimStart, List.dropWhile_eq_nil_iff.2 hafter, trimEnd_nil]
  | cons c r =>
    have hstart : trimStart (c :: r ++ after) = c :: r ++ after := trimStart_of_head hs.head
    rw [hstart, trimEnd_append _ hafter, trimEnd_of_endsPlain hs.last]

/-- The first text is the second one between blanks. -/
def Padded (padded s : List Char) : Prop :=
  ∃ before after, Blanks before ∧ Blanks after ∧ padded = before ++ (s ++ after)

theorem padded_nil_iff : Padded s [] ↔ Blanks s := by
  constructor
  · rintro ⟨before, after, hbefore, hafter, rfl⟩
    exact hbefore.append (by simpa using hafter)
  · intro h
    exact ⟨s, [], h, blanks_nil, by simp⟩

theorem trim_eq_iff {t : List Char} : trim s = t ↔ Trimmed t ∧ Padded s t := by
  constructor
  · rintro rfl
    exact ⟨trimmed_trim s, exists_trim s⟩
  · rintro ⟨ht, before, after, hbefore, hafter, rfl⟩
    exact trim_padded hbefore ht hafter

theorem trimmed_eq_iff {key name : String} :
    trimmed key = name ↔ Trimmed name.toList ∧ Padded key.toList name.toList := by
  have htrimmed : (trimmed key).toList = trim key.toList := String.toList_ofList
  rw [← String.toList_inj, htrimmed, trim_eq_iff]

/-! ## Cuts -/

variable {p : Char → Bool} {before after : List Char}

theorem forall_beq_eq_false {c : Char} (h : c ∉ s) : ∀ x ∈ s, (x == c) = false := by
  intro x hx
  simpa using ne_of_mem_of_not_mem hx h

theorem cutFirst?_append {c : Char} (hc : p c = true) (hbefore : ∀ x ∈ before, p x = false) :
    cutFirst? p (before ++ c :: after) = some (before, after) := by
  induction before with
  | nil => simp [cutFirst?, hc]
  | cons d before ih =>
    obtain ⟨hd, hbefore⟩ := List.forall_mem_cons.1 hbefore
    simp [cutFirst?, hd, ih hbefore]

theorem cutLast?_eq_none_iff : cutLast? p s = none ↔ ∀ c ∈ s, p c = false := by
  induction s with
  | nil => simp [cutLast?]
  | cons c r ih => cases hr : cutLast? p r <;> simp [cutLast?, hr, ← ih]

theorem cutLast?_eq_some (h : cutLast? p s = some (before, after)) :
    ∃ c, p c = true ∧ s = before ++ c :: after ∧ ∀ x ∈ after, p x = false := by
  induction s generalizing before with
  | nil => simp [cutLast?] at h
  | cons d r ih =>
    cases hr : cutLast? p r with
    | some parts =>
      simp only [cutLast?, hr] at h
      cases h
      obtain ⟨c, hc, rfl, hafter⟩ := ih hr
      exact ⟨c, hc, rfl, hafter⟩
    | none =>
      have hd : p d = true := by
        by_contra hd
        simp [cutLast?, hr, hd] at h
      simp only [cutLast?, hr, hd, if_true] at h
      cases h
      exact ⟨d, hd, rfl, cutLast?_eq_none_iff.1 hr⟩

theorem cutLast?_append {c : Char} (hc : p c = true) (hafter : ∀ x ∈ after, p x = false) :
    cutLast? p (before ++ c :: after) = some (before, after) := by
  induction before with
  | nil => simp [cutLast?, cutLast?_eq_none_iff.2 hafter, hc]
  | cons d before ih => simp [cutLast?, ih]

theorem stripSuffix?_append (s suffix : List Char) : stripSuffix? suffix (s ++ suffix) = some s := by
  simp [stripSuffix?, List.isSuffixOf_iff_suffix]

theorem stripSuffix?_eq_some_iff {suffix rest : List Char} :
    stripSuffix? suffix s = some rest ↔ s = rest ++ suffix := by
  constructor
  · intro h
    rw [stripSuffix?] at h
    split at h
    case isTrue hsuffix =>
      obtain ⟨front, rfl⟩ := List.isSuffixOf_iff_suffix.1 hsuffix
      simpa using h
    case isFalse => cases h
  · rintro rfl
    exact stripSuffix?_append rest suffix

theorem stripSuffix?_concat (suffix s : List Char) (a c : Char) :
    stripSuffix? (suffix ++ [a]) (s ++ [c]) = if a = c then stripSuffix? suffix s else none := by
  apply Option.ext
  intro rest
  split
  case isTrue h => simp [stripSuffix?_eq_some_iff, h, ← List.append_assoc]
  case isFalse h => simp [stripSuffix?_eq_some_iff, Ne.symm h, ← List.append_assoc]

theorem stripSuffix?_pair (s : List Char) (a b c : Char) :
    stripSuffix? [a, b] (s ++ [c]) = if b = c then stripSuffix? [a] s else none :=
  stripSuffix?_concat [a] s b c

theorem stripSuffix?_singleton (s : List Char) (a c : Char) :
    stripSuffix? [a] (s ++ [c]) = if a = c then some s else none := by
  have hnil : stripSuffix? [] s = some s := by simp [stripSuffix?]
  rw [← hnil]
  exact stripSuffix?_concat [] s a c

theorem stripSuffix?_singleton_eq_none_iff {c : Char} :
    stripSuffix? [c] s = none ↔ c ∉ s.getLast? := by
  rw [Option.eq_none_iff_forall_ne_some, Option.mem_def, List.getLast?_eq_some_iff]
  simp [stripSuffix?_eq_some_iff]

end Text
end FilterSql

import FilterSql.Filter.Operator
import FilterSql.Proofs.Text.Trimming
import Mathlib.Data.List.Basic

/-!
# FilterSql.Proofs.Filter.Keys

The grammar of the keys of a filter, and how keys are split by it. A key can be read in more than
one way where a column ends in `NOT` or in a part of a symbol.

* `Operator.Spells`: how each operator is written.
* `Operator.KeyParts`: a column with blanks around it; `KeyParts.key` puts an operator behind it.
* `Operator.splitWord?_eq_some`, `Operator.splitSymbol?_eq_some`: what is cut off a key.
* `Operator.splitsKeys`: keys of every form are split into the parts they are made of, all other
  keys are columns, and nothing of a key gets lost.
-/

namespace FilterSql
namespace Operator

open Text (Blanks NoBlanks EndsPlain Trimmed)

/-! ## The grammar -/

inductive IsSymbol : Operator → String → Prop where
  | lt : IsSymbol .lt "<"
  | le : IsSymbol .le "<="
  | gt : IsSymbol .gt ">"
  | ge : IsSymbol .ge ">="
  | ne : IsSymbol .ne "!="
  | ne' : IsSymbol .ne "<>"

/-- The words of operators, in whatever case. -/
inductive IsWord : Operator → String → Prop where
  | like {word : String} (h : Text.sameWord word.toList "LIKE".toList = true) : IsWord .like word
  | between {word : String} (h : Text.sameWord word.toList "BETWEEN".toList = true) :
    IsWord .between word

inductive Negates : Operator → Operator → Prop where
  | like : Negates .notLike .like
  | between : Negates .notBetween .between

def IsNot (word : String) : Prop := Text.sameWord word.toList "NOT".toList = true

/-- `NOT`, blanks and the word of an operator. -/
inductive IsNegated : Operator → String → Prop where
  | intro {op plain : Operator} {negation gap word : String} (hop : Negates op plain)
    (hnot : IsNot negation) (hgap : Blanks gap.toList) (hne : gap ≠ "") (hword : IsWord plain word) :
    IsNegated op (negation ++ gap ++ word)

/-- How an operator is written. Equality is not. -/
inductive Spells : Operator → String → Prop where
  | equality : Spells .eq ""
  | symbol {op : Operator} {s : String} : IsSymbol op s → Spells op s
  | word {op : Operator} {s : String} : IsWord op s → Spells op s
  | negated {op : Operator} {s : String} : IsNegated op s → Spells op s

/-- Whether an operator is written with words. -/
def isWordy : Operator → Bool
  | .like | .notLike | .between | .notBetween => true
  | _ => false

/-- A column and the blanks of a key: in front of the column, behind it, and at the end. -/
structure KeyParts where
  before : String
  column : String
  gap : String
  after : String
  blanks_before : Blanks before.toList
  trimmed : Trimmed column.toList
  blanks_gap : Blanks gap.toList
  blanks_after : Blanks after.toList

/-- The key with an operator behind the column. -/
def KeyParts.key (k : KeyParts) (operator : String) : String :=
  k.before ++ k.column ++ k.gap ++ operator ++ k.after

/-- A column that could be read as a column and a `NOT` that belongs to the operator. -/
def EndsInNot (column : String) : Prop :=
  ∃ front gap negation, column = front ++ gap ++ negation ∧ front ≠ "" ∧ Blanks gap.toList ∧
    gap ≠ "" ∧ IsNot negation

/-- A column whose last character makes a longer symbol of the one that touches it. -/
def Lengthens (column symbol : String) : Prop :=
  ∃ c op, column.toList.getLast? = some c ∧ IsSymbol op (String.singleton c ++ symbol)

/-- A key with an operator: a symbol, or words with blanks in front of them and a column. -/
def HasOperator (key : String) : Prop :=
  ∃ (k : KeyParts) (op : Operator) (s : String), key = k.key s ∧
    (IsSymbol op s ∨ k.column ≠ "" ∧ k.gap ≠ "" ∧ (IsWord op s ∨ IsNegated op s))

/-- What it is to split keys by the grammar. -/
structure SplitsKeys (split : String → String × Operator) : Prop where
  word : ∀ (k : KeyParts) {op : Operator} {s : String}, k.column ≠ "" → k.gap ≠ "" →
    IsWord op s → ¬ EndsInNot k.column → split (k.key s) = (k.column, op)
  /-- The column may end in a further `NOT`. -/
  negated : ∀ (k : KeyParts) {op : Operator} {s : String}, k.column ≠ "" → k.gap ≠ "" →
    IsNegated op s → split (k.key s) = (k.column, op)
  symbol : ∀ (k : KeyParts) {op : Operator} {s : String}, k.column ≠ "" → IsSymbol op s →
    ¬ (k.gap = "" ∧ Lengthens k.column s) → split (k.key s) = (k.column, op)
  alone : ∀ (k : KeyParts) {op : Operator} {s : String}, k.column = "" → IsSymbol op s →
    split (k.key s) = ("", op)
  plain : ∀ key, ¬ HasOperator key → split key = (Text.trimmed key, .eq)
  /-- Every trimmed key is made of the column, blanks and the operator that come out. -/
  parts : ∀ key column op, split key = (column, op) → Trimmed column.toList ∧
    ∃ gap s, Text.trimmed key = column ++ gap ++ s ∧ Spells op s ∧ Blanks gap.toList ∧
      (op = .eq → gap = "") ∧ (op.isWordy = true → column ≠ "" ∧ gap ≠ "")

/-! ## Last words -/

variable {key head gap word column rest : List Char} {op : Operator} {s : String}

theorem splitLastWord?_append (hhead : EndsPlain head) (hne : head ≠ []) (hgap : Blanks gap)
    (hgap' : gap ≠ []) (hword : NoBlanks word) (hword' : word ≠ []) :
    splitLastWord? (head ++ (gap ++ word)) = some (head, word) := by
  -- The blank to cut at is the last one of the gap.
  obtain ⟨blanks, c, rfl⟩ : ∃ blanks c, gap = blanks ++ [c] :=
    ⟨_, _, (List.dropLast_append_getLast hgap').symm⟩
  have hblanks : Blanks blanks := fun d hd => hgap d (List.mem_append_left _ hd)
  have hc : Text.isBlank c = true := hgap c (by simp)
  have hends : EndsPlain (head ++ (blanks ++ [c] ++ word)) := by
    rw [← List.append_assoc]
    exact hword.endsPlain.append_left hword' _
  have hsplit : head ++ (blanks ++ [c] ++ word) = (head ++ blanks) ++ c :: word := by simp
  rw [splitLastWord?, Text.trimEnd_of_endsPlain hends, hsplit, Text.cutLast?_append hc hword]
  simp only [Text.trimEnd_append head hblanks, Text.trimEnd_of_endsPlain hhead]
  rw [if_neg (by simpa using hne)]

theorem splitLastWord?_eq_some (h : splitLastWord? key = some (head, word)) :
    head ≠ [] ∧ EndsPlain head ∧
      ∃ gap, Blanks gap ∧ gap ≠ [] ∧ Text.trimEnd key = head ++ (gap ++ word) := by
  rw [splitLastWord?] at h
  split at h
  case h_1 => cases h
  case h_2 before word' hcut =>
    dsimp only at h
    split at h
    case isTrue => cases h
    case isFalse hhead =>
      cases h
      obtain ⟨c, hc, hkey, -⟩ := Text.cutLast?_eq_some hcut
      obtain ⟨blanks, hblanks, hbefore⟩ := Text.exists_trimEnd before
      refine ⟨by simpa using hhead, Text.endsPlain_trimEnd before, blanks ++ [c], ?_, by simp, ?_⟩
      · exact hblanks.append (by simpa [Blanks] using hc)
      · calc Text.trimEnd key = before ++ c :: word := hkey
          _ = (Text.trimEnd before ++ blanks) ++ c :: word := by rw [← hbefore]
          _ = Text.trimEnd before ++ (blanks ++ [c] ++ word) := by simp

/-! ## Words -/

theorem IsNot.noBlanks (h : IsNot s) : NoBlanks s.toList :=
  Text.noBlanks_of_sameWord h (by decide)

theorem IsWord.noBlanks (h : IsWord op s) : NoBlanks s.toList := by
  cases h with
  | like h => exact Text.noBlanks_of_sameWord h (by decide)
  | between h => exact Text.noBlanks_of_sameWord h (by decide)

theorem IsNot.ne_nil (h : IsNot s) : s.toList ≠ [] := by
  intro hs
  rw [IsNot, hs] at h
  exact absurd h (by decide)

/-- The last letters of words, which no symbol ends with. -/
def EndsInLetter (s : List Char) : Prop :=
  ∃ c, s.getLast? = some c ∧ (c.toLower = 'e' ∨ c.toLower = 'n')

theorem EndsInLetter.append_left (h : EndsInLetter word) (s : List Char) :
    EndsInLetter (s ++ word) := by
  obtain ⟨c, hc, hletter⟩ := h
  exact ⟨c, by simp [hc], hletter⟩

theorem EndsInLetter.ne_nil (h : EndsInLetter word) : word ≠ [] := by
  rintro rfl
  obtain ⟨c, hc, -⟩ := h
  cases hc

theorem EndsInLetter.endsPlain (h : EndsInLetter word) : EndsPlain word := by
  obtain ⟨c, hc, hletter⟩ := h
  intro d hd
  obtain rfl : c = d := Option.some.inj (hc.symm.trans hd)
  cases hblank : Text.isBlank c with
  | false => rfl
  | true =>
    rw [Text.toLower_of_isBlank hblank] at hletter
    rcases hletter with rfl | rfl <;> exact absurd hblank (by decide)

theorem IsWord.endsInLetter (h : IsWord op s) : EndsInLetter s.toList := by
  have last {c : Char} {letters : List Char} (h : Text.sameWord s.toList letters = true)
      (hc : (letters.map Char.toLower).getLast? = some c) :
      ∃ d, s.toList.getLast? = some d ∧ d.toLower = c := by
    rw [← eq_of_beq h, List.getLast?_map] at hc
    simpa using hc
  cases h with
  | like h =>
    obtain ⟨c, hc, hlower⟩ := last h (c := 'e') (by decide)
    exact ⟨c, hc, .inl hlower⟩
  | between h =>
    obtain ⟨c, hc, hlower⟩ := last h (c := 'n') (by decide)
    exact ⟨c, hc, .inr hlower⟩

theorem IsNegated.endsInLetter (h : IsNegated op s) : EndsInLetter s.toList := by
  cases h with
  | intro _ _ _ _ hword =>
    rw [String.toList_append]
    exact hword.endsInLetter.append_left _

theorem ofWord?_eq_some {plain negated : Operator} (h : ofWord? word = some (plain, negated)) :
    IsWord plain (String.ofList word) ∧ Negates negated plain := by
  rw [ofWord?] at h
  split at h
  case isTrue hlike =>
    cases h
    exact ⟨.like (by rwa [String.toList_ofList]), .like⟩
  case isFalse =>
    split at h
    case isTrue hbetween =>
      cases h
      exact ⟨.between (by rwa [String.toList_ofList]), .between⟩
    case isFalse => cases h

theorem Negates.ofWord? {plain : Operator} (hop : Negates op plain) (hword : IsWord plain s) :
    ofWord? s.toList = some (plain, op) := by
  cases hop with
  | like =>
    cases hword with
    | like h => exact if_pos h
  | between =>
    cases hword with
    | between h =>
      -- The two words differ, so a text is at most one of them.
      have hlike : ¬ Text.sameWord s.toList ['L', 'I', 'K', 'E'] = true := fun hlike =>
        absurd ((eq_of_beq hlike).symm.trans (eq_of_beq h)) (by decide)
      rw [Operator.ofWord?, if_neg hlike]
      exact if_pos h

theorem IsWord.exists_negates (h : IsWord op s) : ∃ negated, Negates negated op := by
  cases h with
  | like => exact ⟨_, .like⟩
  | between => exact ⟨_, .between⟩

/-! ## Keys with words -/

theorem splitWord?_plain (hcolumn : EndsPlain column) (hne : column ≠ []) (hgap : Blanks gap)
    (hgap' : gap ≠ []) (hword : IsWord op s) (hnot : ¬ EndsInNot (String.ofList column)) :
    splitWord? (column ++ (gap ++ s.toList)) = some (column, op) := by
  obtain ⟨negated, hnegated⟩ := hword.exists_negates
  rw [splitWord?, splitLastWord?_append hcolumn hne hgap hgap' hword.noBlanks hword.endsInLetter.ne_nil]
  simp only [hnegated.ofWord? hword]
  split
  case h_1 => rfl
  case h_2 front last hlast =>
    obtain ⟨hfront, -, blanks, hblanks, hblanks', hsplit⟩ := splitLastWord?_eq_some hlast
    rw [Text.trimEnd_of_endsPlain hcolumn] at hsplit
    rw [if_neg]
    intro hsame
    refine hnot ⟨String.ofList front, String.ofList blanks, String.ofList last, ?_, ?_, ?_, ?_, ?_⟩
    · simp [hsplit, String.append_assoc]
    · simpa using hfront
    · simpa using hblanks
    · simpa using hblanks'
    · simpa [IsNot] using hsame

theorem splitWord?_negated (hcolumn : EndsPlain column) (hne : column ≠ []) (hgap : Blanks gap)
    (hgap' : gap ≠ []) (hs : IsNegated op s) :
    splitWord? (column ++ (gap ++ s.toList)) = some (column, op) := by
  cases hs with
  | @intro plain negation blanks word hop hnot hblanks hblanks' hword =>
    have hhead : EndsPlain (column ++ (gap ++ negation.toList)) := by
      rw [← List.append_assoc]
      exact hnot.noBlanks.endsPlain.append_left hnot.ne_nil _
    have hsplit : column ++ (gap ++ (negation ++ blanks ++ word).toList) =
        (column ++ (gap ++ negation.toList)) ++ (blanks.toList ++ word.toList) := by
      simp [String.toList_append]
    rw [splitWord?, hsplit, splitLastWord?_append hhead (by simp [hne]) hblanks
      (by simpa using hblanks') hword.noBlanks hword.endsInLetter.ne_nil]
    simp only [hop.ofWord? hword]
    rw [splitLastWord?_append hcolumn hne hgap hgap' hnot.noBlanks hnot.ne_nil]
    exact if_pos hnot

theorem splitWord?_eq_some (h : splitWord? key = some (column, op)) :
    column ≠ [] ∧ EndsPlain column ∧ ∃ gap s, Blanks gap ∧ gap ≠ [] ∧
      (IsWord op s ∨ IsNegated op s) ∧ Text.trimEnd key = column ++ (gap ++ s.toList) := by
  rw [splitWord?] at h
  split at h
  case h_1 => cases h
  case h_2 head word hlast =>
    obtain ⟨hhead, hends, gap, hgap, hgap', hkey⟩ := splitLastWord?_eq_some hlast
    split at h
    case h_1 => cases h
    case h_2 plain negated hop =>
      obtain ⟨hword, hnegates⟩ := ofWord?_eq_some hop
      have asPlain : head ≠ [] ∧ EndsPlain head ∧ ∃ gap s, Blanks gap ∧ gap ≠ [] ∧
          (IsWord plain s ∨ IsNegated plain s) ∧ Text.trimEnd key = head ++ (gap ++ s.toList) :=
        ⟨hhead, hends, gap, String.ofList word, hgap, hgap', .inl hword, by simpa using hkey⟩
      split at h
      case h_1 => cases h; exact asPlain
      case h_2 front last hlast' =>
        split at h
        case isFalse => cases h; exact asPlain
        case isTrue hnot =>
          cases h
          obtain ⟨hfront, hends', gap', hgap₁, hgap₂, hhead'⟩ := splitLastWord?_eq_some hlast'
          rw [Text.trimEnd_of_endsPlain hends] at hhead'
          have hneg : IsNegated op
              (String.ofList last ++ String.ofList gap ++ String.ofList word) :=
            .intro hnegates (by simpa [IsNot] using hnot) (by simpa using hgap)
              (by simpa using hgap') hword
          refine ⟨hfront, hends', gap', _, hgap₁, hgap₂, .inr hneg, ?_⟩
          simp [hkey, hhead', String.toList_append]

/-! ## Keys with symbols -/

theorem isSymbol_of_mem {chars : List Char} (h : (chars, op) ∈ symbols) :
    IsSymbol op (String.ofList chars) := by
  simp only [symbols, List.mem_cons, Prod.mk.injEq, List.not_mem_nil, or_false] at h
  rcases h with ⟨rfl, rfl⟩ | ⟨rfl, rfl⟩ | ⟨rfl, rfl⟩ | ⟨rfl, rfl⟩ | ⟨rfl, rfl⟩ | ⟨rfl, rfl⟩
  exacts [.le, .ge, .ne, .ne', .lt, .gt]

theorem splitSymbol?_eq_some (h : splitSymbol? key = some (rest, op)) :
    ∃ s, IsSymbol op s ∧ key = rest ++ s.toList := by
  obtain ⟨⟨chars, op'⟩, hmem, hstrip⟩ := List.exists_of_findSome?_eq_some h
  simp only [Option.map_eq_some_iff] at hstrip
  obtain ⟨rest', hrest, heq⟩ := hstrip
  cases heq
  exact ⟨_, isSymbol_of_mem hmem, by simpa using Text.stripSuffix?_eq_some_iff.1 hrest⟩

theorem splitSymbol?_append (hs : IsSymbol op s)
    (hlong : ∀ c ∈ rest.getLast?, ∀ longer, ¬ IsSymbol longer (String.singleton c ++ s)) :
    splitSymbol? (rest ++ s.toList) = some (rest, op) := by
  have two (a b : Char) : rest ++ [a, b] = (rest ++ [a]) ++ [b] := by simp
  cases hs with
  | lt => simp [splitSymbol?, symbols, Text.stripSuffix?_pair, Text.stripSuffix?_singleton]
  | gt =>
    have hlt : Text.stripSuffix? ['<'] rest = none := by
      rw [Text.stripSuffix?_singleton_eq_none_iff]
      exact fun h => hlong '<' h .ne .ne'
    simp [splitSymbol?, symbols, Text.stripSuffix?_pair, Text.stripSuffix?_singleton, hlt]
  | le | ge | ne | ne' =>
    simp [splitSymbol?, symbols, two, Text.stripSuffix?_pair, Text.stripSuffix?_singleton,
      -List.append_assoc]

theorem IsSymbol.noBlanks (h : IsSymbol op s) : NoBlanks s.toList := by
  cases h <;> decide

theorem IsSymbol.ne_nil (h : IsSymbol op s) : s.toList ≠ [] := by
  cases h <;> decide

theorem IsSymbol.not_endsInLetter (h : IsSymbol op s) : ¬ EndsInLetter s.toList := by
  rintro ⟨c, hc, hletter⟩
  cases h <;> cases hc <;> exact absurd hletter (by decide)

/-- Words end in letters and symbols do not. -/
theorem splitWord?_symbol (hs : IsSymbol op s) (rest : List Char) :
    splitWord? (rest ++ s.toList) = none := by
  rw [Option.eq_none_iff_forall_ne_some]
  rintro ⟨column, op'⟩ h
  obtain ⟨-, -, gap, words, -, -, hwords, hkey⟩ := splitWord?_eq_some h
  have hletter : EndsInLetter words.toList := by
    rcases hwords with hword | hnegated
    · exact hword.endsInLetter
    · exact hnegated.endsInLetter
  rw [Text.trimEnd_of_endsPlain (hs.noBlanks.endsPlain.append_left hs.ne_nil _)] at hkey
  obtain ⟨c, hc, hc'⟩ := (hletter.append_left gap).append_left column
  rw [← hkey, List.getLast?_append_of_ne_nil _ hs.ne_nil] at hc
  exact hs.not_endsInLetter ⟨c, hc, hc'⟩

/-! ## Keys -/

theorem KeyParts.trim_key (k : KeyParts) (hne : k.column ≠ "") (hs : EndsPlain s.toList)
    (hs' : s.toList ≠ []) :
    Text.trim (k.key s).toList = k.column.toList ++ (k.gap.toList ++ s.toList) := by
  have hends := (hs.append_left hs' k.gap.toList).append_left (by simp [hs']) k.column.toList
  have hkey : (k.key s).toList = k.before.toList ++
      ((k.column.toList ++ (k.gap.toList ++ s.toList)) ++ k.after.toList) := by
    simp [KeyParts.key, String.toList_append]
  rw [hkey, Text.trim_padded k.blanks_before (k.trimmed.append (by simpa using hne) hends)
    k.blanks_after]

theorem splitKey_word (k : KeyParts) (hne : k.column ≠ "") (hs : EndsPlain s.toList)
    (hs' : s.toList ≠ [])
    (h : splitWord? (k.column.toList ++ (k.gap.toList ++ s.toList)) = some (k.column.toList, op)) :
    splitKey (k.key s) = (k.column, op) := by
  simp only [splitKey, splitChars, k.trim_key hne hs hs', h]
  rw [Text.trimEnd_of_endsPlain k.trimmed.last, String.ofList_toList]

theorem splitKey_symbol (k : KeyParts) (hne : k.column ≠ "") (hs : IsSymbol op s)
    (hlong : ¬ (k.gap = "" ∧ Lengthens k.column s)) : splitKey (k.key s) = (k.column, op) := by
  have hsplit : splitSymbol? ((k.column.toList ++ k.gap.toList) ++ s.toList) =
      some (k.column.toList ++ k.gap.toList, op) := by
    apply splitSymbol?_append hs
    intro c hc longer hlonger
    by_cases hgap : k.gap = ""
    · exact hlong ⟨hgap, c, longer, by simpa [hgap] using hc, hlonger⟩
    · -- The character that touches the symbol is a blank.
      rw [List.getLast?_append_of_ne_nil _ (by simpa using hgap)] at hc
      have hblank := k.blanks_gap c (List.mem_of_getLast? hc)
      have hplain := hlonger.noBlanks c (by simp [String.toList_append])
      exact absurd hblank (by simp [hplain])
  simp only [splitKey, splitChars, k.trim_key hne hs.noBlanks.endsPlain hs.ne_nil]
  rw [← List.append_assoc, splitWord?_symbol hs, hsplit]
  simp only [Text.trimEnd_append _ k.blanks_gap, Text.trimEnd_of_endsPlain k.trimmed.last,
    String.ofList_toList]

theorem splitKey_alone (k : KeyParts) (hempty : k.column = "") (hs : IsSymbol op s) :
    splitKey (k.key s) = ("", op) := by
  have hkey : (k.key s).toList =
      (k.before.toList ++ k.gap.toList) ++ (s.toList ++ k.after.toList) := by
    simp [KeyParts.key, String.toList_append, hempty]
  have htrim : Text.trim (k.key s).toList = s.toList := by
    rw [hkey, Text.trim_padded (k.blanks_before.append k.blanks_gap) hs.noBlanks.trimmed
      k.blanks_after]
  have hword : splitWord? s.toList = none := splitWord?_symbol hs []
  have hsymbol : splitSymbol? ([] ++ s.toList) = some ([], op) :=
    splitSymbol?_append hs (by simp)
  rw [List.nil_append] at hsymbol
  simp only [splitKey, splitChars, htrim, hword, hsymbol]
  rfl

/-- What comes out of splitting a key, read backwards. -/
theorem splitChars_cases (h : splitChars key = (column, op)) :
    EndsPlain column ∧ ∃ gap s, Blanks gap ∧ Text.trim key = column ++ (gap ++ s.toList) ∧
      (op = .eq ∧ gap = [] ∧ s = "" ∨ IsSymbol op s ∨
        column ≠ [] ∧ gap ≠ [] ∧ (IsWord op s ∨ IsNegated op s)) := by
  have hends : EndsPlain (Text.trim key) := (Text.trimmed_trim key).last
  rw [splitChars] at h
  split at h
  case h_1 head op' hword =>
    cases h
    obtain ⟨hne, hplain, gap, s, hgap, hgap', hs, hkey⟩ := splitWord?_eq_some hword
    rw [Text.trimEnd_of_endsPlain hends] at hkey
    rw [Text.trimEnd_of_endsPlain hplain]
    exact ⟨hplain, gap, s, hgap, hkey, .inr (.inr ⟨hne, hgap', hs⟩)⟩
  case h_2 =>
    split at h
    case h_1 rest op' hsymbol =>
      cases h
      obtain ⟨s, hs, hkey⟩ := splitSymbol?_eq_some hsymbol
      obtain ⟨gap, hgap, hrest⟩ := Text.exists_trimEnd rest
      refine ⟨Text.endsPlain_trimEnd rest, gap, s, hgap, ?_, .inr (.inl hs)⟩
      rw [← List.append_assoc, ← hrest, hkey]
    case h_2 =>
      cases h
      exact ⟨hends, [], "", Text.blanks_nil, by simp, .inl ⟨rfl, rfl, rfl⟩⟩

theorem hasOperator_of_trim {key : String} (hends : EndsPlain column) (hgap : Blanks gap)
    (htrim : Text.trim key.toList = column ++ (gap ++ s.toList))
    (hs : IsSymbol op s ∨ column ≠ [] ∧ gap ≠ [] ∧ (IsWord op s ∨ IsNegated op s)) :
    HasOperator key := by
  obtain ⟨before, after, hbefore, hafter, hkey⟩ := Text.exists_trim key.toList
  have hcolumn : Trimmed column := Text.trimmed_of_trim htrim hends
  let k : KeyParts :=
    { before := String.ofList before
      column := String.ofList column
      gap := String.ofList gap
      after := String.ofList after
      blanks_before := by simpa using hbefore
      trimmed := by simpa using hcolumn
      blanks_gap := by simpa using hgap
      blanks_after := by simpa using hafter }
  refine ⟨k, op, s, ?_, by simpa [k] using hs⟩
  rw [← String.ofList_toList (s := key), hkey, htrim]
  simp [KeyParts.key, k, String.append_assoc]

theorem splitsKeys : SplitsKeys splitKey where
  word k _ _ hne hgap hword hnot :=
    splitKey_word k hne hword.endsInLetter.endsPlain hword.endsInLetter.ne_nil
      (splitWord?_plain k.trimmed.last (by simpa using hne) k.blanks_gap (by simpa using hgap)
        hword (by simpa using hnot))
  negated k _ _ hne hgap hs :=
    splitKey_word k hne hs.endsInLetter.endsPlain hs.endsInLetter.ne_nil
      (splitWord?_negated k.trimmed.last (by simpa using hne) k.blanks_gap (by simpa using hgap) hs)
  symbol k _ _ hne hs hlong := splitKey_symbol k hne hs hlong
  alone k _ _ hempty hs := splitKey_alone k hempty hs
  plain key hplain := by
    cases h : splitChars key.toList with
    | mk column op =>
      obtain ⟨hends, gap, s, hgap, htrim, ⟨rfl, rfl, rfl⟩ | hs⟩ := splitChars_cases h
      · simp [splitKey, Text.trimmed, h, htrim]
      · exact absurd (hasOperator_of_trim hends hgap htrim hs) hplain
  parts key column op h := by
    cases hparts : splitChars key.toList with
    | mk front op' =>
      rw [splitKey, hparts] at h
      cases h
      obtain ⟨hends, gap, s, hgap, htrim, hcases⟩ := splitChars_cases hparts
      refine ⟨by simpa using Text.trimmed_of_trim htrim hends, String.ofList gap, s,
        by simp [Text.trimmed, htrim, String.append_assoc], ?_⟩
      rcases hcases with ⟨rfl, rfl, rfl⟩ | hs | ⟨hne, hgap', hs⟩
      · exact ⟨.equality, by simpa using hgap, fun _ => rfl, nofun⟩
      · exact ⟨.symbol hs, by simpa using hgap, by cases hs <;> nofun, by cases hs <;> nofun⟩
      · refine ⟨hs.elim .word .negated, by simpa using hgap, ?_, fun _ => by simp [hne, hgap']⟩
        rcases hs with hs | ⟨hop, -, -, -, -⟩
        · cases hs <;> nofun
        · cases hop <;> nofun

/-- A column that is a word itself, and one that ends in a symbol away from the next. -/
theorem splitKey_like_notBetween :
    splitKey " like\u3000nOt\u00a0Between\n" = ("like", .notBetween) ∧
      splitKey "a < >" = ("a <", .gt) := by
  let padded : KeyParts :=
    { before := " "
      column := "like"
      gap := "\u3000"
      after := "\n"
      blanks_before := by decide
      trimmed := by decide
      blanks_gap := by decide
      blanks_after := by decide }
  let apart : KeyParts :=
    { before := ""
      column := "a <"
      gap := " "
      after := ""
      blanks_before := by decide
      trimmed := by decide
      blanks_gap := by decide
      blanks_after := by decide }
  have negation : IsNegated .notBetween ("nOt" ++ "\u00a0" ++ "Between") :=
    .intro .between rfl (by decide) (by decide) (.between rfl)
  have hpadded := splitsKeys.negated padded (by decide) (by decide) negation
  have hapart := splitsKeys.symbol apart (by decide) .gt fun h => absurd h.1 (by decide)
  simp only [KeyParts.key, padded, apart] at hpadded hapart
  exact ⟨hpadded, hapart⟩

end Operator

/-! ## Aliases -/

variable {column : String} {front : List Char}

theorem baseColumn_of_not_mem (h : '.' ∉ column.toList) : baseColumn column = column := by
  simp [baseColumn, Text.cutFirst?_eq_none.2 (Text.forall_beq_eq_false h)]

/-- An alias has no point, and the column behind it may have some. -/
theorem baseColumn_aliased (h : '.' ∉ front) (column : String) :
    baseColumn (String.ofList (front ++ '.' :: column.toList)) = column := by
  have hcut : Text.cutFirst? (· == '.') (front ++ '.' :: column.toList) =
      some (front, column.toList) := Text.cutFirst?_append rfl (Text.forall_beq_eq_false h)
  simp [baseColumn, hcut]

end FilterSql

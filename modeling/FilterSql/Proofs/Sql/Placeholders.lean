import FilterSql.Proofs.Decimal.Digits
import FilterSql.Proofs.Sql.Values

/-!
# FilterSql.Proofs.Sql.Placeholders

The placeholders that a text shows, found without regard to how it was written: outside of quotes
every question mark is one, and every dollar sign with the digits behind it.

* `Sql.placeholders`: the placeholders from left to right.
* `Sql.placeholders_write`: what is written for pieces shows one for each value, numbered on, if
  the fixed texts of the pieces hold nothing that could be taken for one.
* `Sql.inert_wherePieces`: the texts of a WHERE clause hold nothing of the kind.
-/

namespace FilterSql
namespace Sql

open Decimal (EndsDigits isDigit)

/-- The placeholders in a text that begins between quotes or outside of them. A quote that is
doubled leaves the quotes and goes back at once. -/
def placeholders (quoted : Bool) : List Char → List (List Char)
  | [] => []
  | c :: rest =>
    if c = '"' then placeholders (!quoted) rest
    else if quoted then placeholders quoted rest
    else if c = '?' then ['?'] :: placeholders quoted rest
    else if c = '$' then ('$' :: rest.takeWhile isDigit) :: placeholders quoted rest
    else placeholders quoted rest

/-- Neither a quote nor a part of a placeholder. -/
def isInert (c : Char) : Bool := c != '"' && c != '?' && c != '$' && !isDigit c

def Piece.isInert : Piece → Bool
  | .text s => s.toList.all Sql.isInert
  | _ => true

/-- The fixed texts hold no quotes and nothing of a placeholder. -/
def inert (pieces : List Piece) : Bool := pieces.all Piece.isInert

/-! ## Scanning -/

theorem isDigit_of_isInert {c : Char} (h : isInert c = true) : isDigit c = false := by
  simp only [isInert, Bool.and_eq_true, Bool.not_eq_true'] at h
  exact h.2

theorem placeholders_append_of_plain {s : List Char}
    (h : ∀ c ∈ s, c ≠ '"' ∧ c ≠ '?' ∧ c ≠ '$') (rest : List Char) :
    placeholders false (s ++ rest) = placeholders false rest := by
  induction s with
  | nil => rfl
  | cons c s ih =>
    obtain ⟨hquote, hmark, hdollar⟩ := h c List.mem_cons_self
    have ih := ih fun d hd => h d (List.mem_cons_of_mem _ hd)
    simp [placeholders, hquote, hmark, hdollar, ih]

theorem placeholders_text {s : String} (h : (Piece.text s).isInert = true) (rest : List Char) :
    placeholders false (s.toList ++ rest) = placeholders false rest := by
  refine placeholders_append_of_plain ?_ rest
  intro c hc
  have hinert : isInert c = true := List.all_eq_true.1 h c hc
  simp only [isInert, Bool.and_eq_true, bne_iff_ne] at hinert
  exact ⟨hinert.1.1.1, hinert.1.1.2, hinert.1.2⟩

theorem placeholders_quoteName (s : String) (rest : List Char) :
    placeholders false (quoteName s ++ rest) = placeholders false rest := by
  have hquoted : ∀ s : List Char,
      placeholders true (s.flatMap (fun c => if c == '"' then ['"', '"'] else [c]) ++
        '"' :: rest) = placeholders false rest := by
    intro s
    induction s with
    | nil => simp [placeholders]
    | cons c s ih =>
      by_cases hc : c = '"'
      · subst hc
        simpa [placeholders] using ih
      · simpa [placeholders, hc] using ih
  simpa [quoteName, placeholders] using hquoted s.toList

theorem placeholders_placeholder (dialect : Dialect) (n : Nat) {rest : List Char}
    (hr : EndsDigits rest) :
    placeholders false (placeholder dialect n ++ rest) =
      placeholder dialect n :: placeholders false rest := by
  cases dialect with
  | sqlite => simp [placeholder, placeholders]
  | postgres =>
    have hdigits : ∀ c ∈ Nat.toDigits 10 n, isDigit c = true :=
      fun c hc => Decimal.isDigit_toDigits hc
    have htake : (Nat.toDigits 10 n ++ rest).takeWhile isDigit = Nat.toDigits 10 n := by
      have hspan := Decimal.span_digits hdigits hr
      rw [List.span_eq_takeWhile_dropWhile, Prod.mk.injEq] at hspan
      exact hspan.1
    have hskip : placeholders false (Nat.toDigits 10 n ++ rest) = placeholders false rest := by
      refine placeholders_append_of_plain ?_ rest
      intro c hc
      have hdigit := hdigits c hc
      refine ⟨?_, ?_, ?_⟩ <;> (rintro rfl; revert hdigit; decide)
    simp [placeholder, placeholders, htake, hskip]

/-! ## Pieces -/

theorem endsDigits_write (dialect : Dialect) {pieces : List Piece} (h : inert pieces = true)
    (n : Nat) : EndsDigits (Piece.write dialect n pieces) := by
  induction pieces generalizing n with
  | nil => exact fun c hc => absurd hc (by simp [Piece.write])
  | cons p pieces ih =>
    obtain ⟨hp, hrest⟩ : p.isInert = true ∧ inert pieces = true := by
      simpa [inert] using h
    cases p with
    | text s =>
      rw [Piece.write]
      cases hs : s.toList with
      | nil => exact ih hrest n
      | cons c more =>
        have hinert : isInert c = true :=
          List.all_eq_true.1 hp c (by rw [hs]; exact List.mem_cons_self)
        intro d hd
        cases hd
        exact isDigit_of_isInert hinert
    | name s =>
      intro d hd
      cases hd
      decide
    | bind value =>
      intro d hd
      cases dialect <;> cases hd <;> decide

theorem placeholders_write (dialect : Dialect) {pieces : List Piece} (h : inert pieces = true)
    (n : Nat) : placeholders false (Piece.write dialect n pieces) =
      (List.range' n (binds pieces).length).map (placeholder dialect) := by
  induction pieces generalizing n with
  | nil => rfl
  | cons p pieces ih =>
    obtain ⟨hp, hrest⟩ : p.isInert = true ∧ inert pieces = true := by
      simpa [inert] using h
    cases p with
    | text s => rw [Piece.write, placeholders_text hp, binds_text, ih hrest]
    | name s => rw [Piece.write, placeholders_quoteName, binds_name, ih hrest]
    | bind value =>
      rw [Piece.write, placeholders_placeholder dialect n (endsDigits_write dialect hrest (n + 1)),
        binds_bind, List.length_cons, List.range'_succ, List.map_cons, ih hrest]

/-- What binds nothing is written the same in every dialect. -/
theorem write_of_binds_eq_nil {pieces : List Piece} (h : binds pieces = [])
    (dialect dialect' : Dialect) (n m : Nat) :
    Piece.write dialect n pieces = Piece.write dialect' m pieces := by
  induction pieces with
  | nil => rfl
  | cons p pieces ih =>
    cases p with
    | text s => rw [Piece.write, Piece.write, ih h]
    | name s => rw [Piece.write, Piece.write, ih h]
    | bind value => cases h

/-! ## Fixed texts -/

@[simp] theorem inert_nil : inert [] = true := rfl

@[simp] theorem inert_text (s : String) (rest : List Piece) :
    inert (.text s :: rest) = (s.toList.all isInert && inert rest) := rfl

@[simp] theorem inert_name (s : String) (rest : List Piece) :
    inert (.name s :: rest) = inert rest := rfl

@[simp] theorem inert_bind (value : Bound) (rest : List Piece) :
    inert (.bind value :: rest) = inert rest := rfl

@[simp] theorem inert_append (a b : List Piece) : inert (a ++ b) = (inert a && inert b) :=
  List.all_append

@[simp] theorem inert_columnPieces (c : ColumnRef) : inert c.pieces = true := by
  rcases c with ⟨_ | _, _⟩ <;> rfl

@[simp] theorem inert_valuePieces (value : Option Bound) : inert (valuePieces value) = true := by
  cases value <;> rfl

theorem inert_separated {separator : String} (hs : (Piece.text separator).isInert = true)
    {lists : List (List Piece)} (h : ∀ pieces ∈ lists, inert pieces = true) :
    inert (separated separator lists) = true := by
  induction lists with
  | nil => rfl
  | cons pieces rest ih =>
    have hpieces := h pieces List.mem_cons_self
    have hrest := ih fun more hmore => h more (List.mem_cons_of_mem _ hmore)
    cases rest with
    | nil => exact hpieces
    | cons next rest =>
      rw [Piece.isInert] at hs
      simp [separated, hpieces, hs, hrest]

theorem inert_commaSeparated {α : Type} {write : α → List Piece}
    (h : ∀ a, inert (write a) = true) (items : List α) :
    inert (commaSeparated (items.map write)) = true := by
  refine inert_separated (by decide) ?_
  intro pieces hpieces
  obtain ⟨a, -, rfl⟩ := List.mem_map.1 hpieces
  exact h a

theorem inert_atomPieces (a : Atom) : inert a.pieces = true := by
  obtain ⟨column, test⟩ := a
  cases test with
  | compare op value => cases op <;> simp [Atom.pieces, Comparison.sql, isInert, isDigit]
  | like negated pattern => cases negated <;> simp [Atom.pieces, isInert, isDigit]
  | member negated values =>
    cases values with
    | nil => cases negated <;> rfl
    | cons value values =>
      have hvalues : inert (commaSeparated ((value :: values).map fun v => [.bind v])) = true :=
        inert_commaSeparated (fun _ => rfl) _
      rw [List.map_cons] at hvalues
      cases negated <;> simp [Atom.pieces, hvalues, isInert, isDigit]
  | between negated low high => cases negated <;> simp [Atom.pieces, isInert, isDigit]
  | null negated => cases negated <;> simp [Atom.pieces, isInert, isDigit]

theorem inert_predicatePieces (p : Predicate) : inert p.pieces = true := by
  have hwrap : ∀ (bare : Bool) (pieces : List Piece), inert pieces = true →
      inert (Predicate.wrap bare pieces) = true := by
    intro bare pieces h
    cases bare with
    | true => exact h
    | false => simp [Predicate.wrap, h, isInert, isDigit]
  induction p with
  | atom a => exact inert_atomPieces a
  | constant value => cases value <;> decide
  | join junction left right ihl ihr =>
    have hkeyword : (junction.sql.toList).all isInert = true := by cases junction <;> decide
    rw [Predicate.pieces, inert_append, inert_text, hwrap _ _ ihl, hwrap _ _ ihr, hkeyword]
    rfl

theorem inert_wherePieces (groups : List Group) : inert (wherePieces groups) = true := by
  have hkeyword : (" WHERE ".toList).all isInert = true := by decide
  rw [wherePieces]
  cases Group.joinAll? groups with
  | none => rfl
  | some group => rw [inert_text, hkeyword, inert_predicatePieces]; rfl

end Sql
end FilterSql

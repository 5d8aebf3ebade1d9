import FilterSql.Filter.Condition
import Mathlib.Data.List.Forall2

/-!
# FilterSql.Proofs.Filter.Bindable

Which values can be bound to a placeholder, one by one and as lists, in which form they are, and on
whose account the others are refused.

* `bind_eq_ok`, `bind_eq_error`: the outcome of two steps.
* `Fault.column?`: the column that a refusal names.
* `Json.BoundAs`, `Bound.ofJson_eq_ok_iff`, `Bound.ofItems_eq_ok_iff`: the form that a value takes.
* `Json.isBindable`, `Bound.ofJson_isOk_iff`, `Bound.ofItems_isOk_iff`: the values that are bound.
-/

namespace FilterSql

/-! ## Outcomes -/

theorem bind_eq_ok {ε α β : Type} {x : Except ε α} {next : α → Except ε β} {b : β}
    (h : (x >>= next) = .ok b) : ∃ a, x = .ok a ∧ next a = .ok b := by
  cases x with
  | error e => cases h
  | ok a => exact ⟨a, rfl, h⟩

theorem bind_eq_error {ε α β : Type} {x : Except ε α} {next : α → Except ε β} {e : ε}
    (h : (x >>= next) = .error e) : x = .error e ∨ ∃ a, x = .ok a ∧ next a = .error e := by
  cases x with
  | error e' => cases h; exact .inl rfl
  | ok a => exact .inr ⟨a, rfl, h⟩

/-! ## Refusals -/

/-- The column on account of which a value is refused. -/
def Fault.column? : Fault → Option String
  | .betweenNotPair column | .nullRefused column | .nullCompared _ column
  | .patternNotText _ column | .arrayCompared _ column | .integerTooLarge _ column
  | .nestedArray column | .nullBound column => some column
  | _ => none

/-- An argument is rejected on account of a column. -/
def Error.Blames (e : Error) (column : String) : Prop :=
  ∃ fault, e = .invalidArgument fault ∧ fault.column? = some column

theorem Error.Blames.isInvalidArgument {e : Error} {column : String} (h : e.Blames column) :
    e.isInvalidArgument = true := by
  obtain ⟨fault, rfl, -⟩ := h
  rfl

/-! ## Values -/

/-- The bound form of a value that is neither NULL nor an array. -/
inductive Json.BoundAs : Json → Bound → Prop where
  | text (s : String) : BoundAs (.str s) (.text s)
  | bool (b : Bool) : BoundAs (.bool b) (.bool b)
  | int {n : Int} (h : n ≤ Decimal.maxSigned64) : BoundAs (.num (.int n)) (.int n)
  | double (x : Double) : BoundAs (.num (.float x)) (.double x)
  | object (fields : Fields) : BoundAs (.obj fields) (.text (Json.obj fields).text)

/-- A value has one bound form at most. -/
theorem Json.BoundAs.unique {v : Json} {b b' : Bound} (h : v.BoundAs b) (h' : v.BoundAs b') :
    b = b' := by
  cases h <;> cases h' <;> rfl

theorem Json.BoundAs.isNull_eq_false {v : Json} {b : Bound} (h : v.BoundAs b) :
    v.isNull = false := by
  cases h <;> rfl

/-- NULL is written as the keyword, and everything else as a placeholder. -/
inductive Json.WrittenAs : Json → Option Bound → Prop where
  | null : WrittenAs .null none
  | bound {value : Json} {bound : Bound} (h : value.BoundAs bound) : WrittenAs value (some bound)

/-- A string, a boolean, an object or a number, but no integer beyond 64 bits with a sign. -/
def Json.isBindable : Json → Bool
  | .str _ | .bool _ | .obj _ | .num (.float _) => true
  | .num (.int n) => n ≤ Decimal.maxSigned64
  | .null | .arr _ => false

theorem Json.isBindable_iff {v : Json} : v.isBindable = true ↔ ∃ b, v.BoundAs b := by
  constructor
  · intro h
    cases v with
    | null => cases h
    | arr items => cases h
    | str s => exact ⟨_, .text s⟩
    | bool b => exact ⟨_, .bool b⟩
    | obj fields => exact ⟨_, .object fields⟩
    | num n =>
      cases n with
      | int n => exact ⟨_, .int (of_decide_eq_true h)⟩
      | float x => exact ⟨_, .double x⟩
  · rintro ⟨_, hv⟩
    cases hv with
    | int hn => exact decide_eq_true hn
    | _ => rfl

namespace Bound

theorem ofJson_eq_ok_iff {column : String} {v : Json} {b : Bound} :
    ofJson column v = .ok b ↔ v.BoundAs b := by
  constructor
  · intro h
    cases v with
    | null => cases h
    | arr items => cases h
    | str s => cases h; exact .text s
    | bool b => cases h; exact .bool b
    | obj fields => cases h; exact .object fields
    | num n =>
      cases n with
      | float x => cases h; exact .double x
      | int n =>
        rw [ofJson] at h
        split at h
        case isTrue hn => cases h; exact .int hn
        case isFalse => cases h
  · intro h
    cases h with
    | int hn => rw [ofJson, if_pos hn]
    | _ => rfl

theorem ofJson_isOk_iff (column : String) {v : Json} :
    (∃ b, ofJson column v = .ok b) ↔ v.isBindable = true := by
  simp only [ofJson_eq_ok_iff, Json.isBindable_iff]

theorem ofJson_blames {column : String} {v : Json} {e : Error} (h : ofJson column v = .error e) :
    e.Blames column := by
  rcases v with _ | _ | n | _ | _ | _
  case num =>
    cases n with
    | int n =>
      by_cases hn : n ≤ Decimal.maxSigned64 <;> simp [ofJson, hn] at h
      subst h
      exact ⟨_, rfl, rfl⟩
    | float x => simp [ofJson] at h
  all_goals simp [ofJson] at h <;> subst h <;> exact ⟨_, rfl, rfl⟩

theorem ofJson_error {column : String} {v : Json} {e : Error} (h : ofJson column v = .error e) :
    e.isInvalidArgument = true := (ofJson_blames h).isInvalidArgument

theorem ofCell_error {column : String} {v : Json} {e : Error} (h : ofCell column v = .error e) :
    e.isInvalidArgument = true := by
  unfold ofCell at h
  split at h
  case h_1 => cases h
  case h_2 =>
    split at h
    case h_1 hbound => cases h; exact ofJson_error hbound
    case h_2 => cases h

theorem writtenAs_of_ofCell {column : String} {v : Json} {cell : Option Bound}
    (h : ofCell column v = .ok cell) : v.WrittenAs cell := by
  unfold ofCell at h
  split at h
  case h_1 =>
    cases h
    exact .null
  case h_2 =>
    split at h
    case h_1 => cases h
    case h_2 bound hbound =>
      cases h
      exact .bound (ofJson_eq_ok_iff.1 hbound)

/-! ## Lists of values -/

theorem ofItems_cons (column : String) (item : Json) (rest : List Json) :
    ofItems column (item :: rest) = (do
      let value ← ofJson column item
      let values ← ofItems column rest
      .ok (value :: values)) := by
  rw [ofItems]
  cases ofJson column item with
  | error e => rfl
  | ok value => cases ofItems column rest <;> rfl

theorem ofItems_blames {column : String} {items : List Json} {e : Error}
    (h : ofItems column items = .error e) : e.Blames column := by
  induction items with
  | nil => cases h
  | cons item rest ih =>
    rw [ofItems_cons] at h
    obtain hitem | ⟨value, -, h⟩ := bind_eq_error h
    · exact ofJson_blames hitem
    obtain hrest | ⟨values, -, h⟩ := bind_eq_error h
    · exact ih hrest
    · cases h

theorem ofItems_error {column : String} {items : List Json} {e : Error}
    (h : ofItems column items = .error e) : e.isInvalidArgument = true :=
  (ofItems_blames h).isInvalidArgument

theorem ofItems_eq_ok_iff {column : String} {items : List Json} {values : List Bound} :
    ofItems column items = .ok values ↔ List.Forall₂ Json.BoundAs items values := by
  induction items generalizing values with
  | nil =>
    rw [List.forall₂_nil_left_iff, ofItems, Except.ok.injEq, eq_comm]
  | cons item rest ih =>
    rw [ofItems_cons, List.forall₂_cons_left_iff]
    constructor
    · intro h
      obtain ⟨value, hb, h⟩ := bind_eq_ok h
      obtain ⟨more, hr, h⟩ := bind_eq_ok h
      cases h
      exact ⟨value, more, ofJson_eq_ok_iff.1 hb, ih.1 hr, rfl⟩
    · rintro ⟨value, more, hb, hr, rfl⟩
      rw [ofJson_eq_ok_iff.2 hb, ih.2 hr]
      rfl

theorem ofItems_isOk_iff (column : String) {items : List Json} :
    (∃ values, ofItems column items = .ok values) ↔ ∀ item ∈ items, item.isBindable = true := by
  induction items with
  | nil => simp [ofItems]
  | cons item rest ih =>
    simp only [ofItems_eq_ok_iff, List.forall₂_cons_left_iff] at ih ⊢
    rw [List.forall_mem_cons, ← ih, Json.isBindable_iff]
    constructor
    · rintro ⟨-, value, more, hb, hr, -⟩
      exact ⟨⟨value, hb⟩, more, hr⟩
    · rintro ⟨⟨value, hb⟩, more, hr⟩
      exact ⟨_, value, more, hb, hr, rfl⟩

end Bound
end FilterSql

import FilterSql.Proofs.Filter.Bindable
import FilterSql.Proofs.Filter.Conditions

/-!
# FilterSql.Proofs.Filter.Admissible

Which conditions are compiled, and what is made of them. An operator takes certain kinds of values;
a condition with another one is refused on account of its column, whatever stands around it.

* `Condition.Admissible`: the values that an operator takes.
* `Condition.Written`: what is written of a condition, and the values that are bound for it.
* `Condition.test_isOk_iff`, `Condition.written_of_test`, `Condition.test_blames`: one condition.
* `compiles_admissible`: a list of conditions.
-/

namespace FilterSql

/-! ## Values that operators take -/

namespace Condition

/-- The first column of the name is known to accept NULL. -/
def AcceptsNull (known : Option TableColumns) (c : Condition) : Prop :=
  ∃ t column, known = some t ∧ t.columns.find? (fun other => other.name == c.base) = some column ∧
    column.nullable = true

/-- The operator takes the value. -/
def Admissible (known : Option TableColumns) (c : Condition) : Prop :=
  match c.operator with
  | .eq | .ne =>
    c.value.isBindable = true ∨
      (∃ items, c.value = .arr items ∧ ∀ item ∈ items, item.isBindable = true) ∨
      (c.value = .null ∧ c.AcceptsNull known)
  | .lt | .le | .gt | .ge => c.value.isBindable = true
  | .like | .notLike => (∃ s, c.value = .str s) ∨ ∃ n, c.value = .num n
  | .between | .notBetween =>
    ∃ low high, c.value = .arr [low, high] ∧ low.isBindable = true ∧ high.isBindable = true

/-! ## What is written -/

/-- What is written of a condition on a column, and the values that are bound for it, those of each
parameter together. To be in a list of nothing is written as a comparison of two constants. -/
inductive Written (c : Condition) (column : List Sql.Piece) :
    List Sql.Piece → List (List Bound) → Prop
  | compare {b : Bound} (operator : c.operator ∈ [.eq, .ne, .lt, .le, .gt, .ge])
      (value : c.value.BoundAs b) :
      Written c column (column ++ [.text (" " ++ c.operator.sql ++ " "), .bind b]) [[b]]
  | members {items : List Json} {values : List Bound} (negated : Bool)
      (operator : c.operator = if negated then .ne else .eq) (value : c.value = .arr items)
      (nonempty : items ≠ [])
      (bound : List.Forall₂ Json.BoundAs items values) :
      Written c column (column ++ .text (if negated then " NOT IN (" else " IN (") ::
        Sql.commaSeparated (values.map fun b => [.bind b]) ++ [.text ")"]) [values]
  | noMembers (negated : Bool) (operator : c.operator = if negated then .ne else .eq)
      (value : c.value = .arr []) :
      Written c column [.bind (.literal 1), .text " = ",
        .bind (.literal (if negated then 1 else 2))] [[]]
  | null (negated : Bool) (operator : c.operator = if negated then .ne else .eq)
      (value : c.value = .null) :
      Written c column (column ++ [.text (if negated then " IS NOT NULL" else " IS NULL")]) []
  | pattern {s : String} (operator : c.operator ∈ [.like, .notLike])
      (value : c.value = .str s ∨ ∃ n, c.value = .num n ∧ s = n.text) :
      Written c column (column ++ [.text (" " ++ c.operator.sql ++ " "), .bind (.text s)])
        [[.text s]]
  | range {low high : Json} {l h : Bound} (operator : c.operator ∈ [.between, .notBetween])
      (value : c.value = .arr [low, high]) (lowest : low.BoundAs l) (highest : high.BoundAs h) :
      Written c column (column ++ [.text (" " ++ c.operator.sql ++ " "), .bind l, .text " AND ",
        .bind h]) [[l], [h]]

end Condition

/-! ## One condition -/

namespace Condition

variable {c : Condition} {known : Option TableColumns} {test : Sql.Test} {negated : Bool}

theorem acceptsNull_iff :
    c.AcceptsNull known ↔ (known.bind fun t => t.acceptsNull? c.base) = some true := by
  simp [AcceptsNull, TableColumns.acceptsNull?, TableColumns.get?, Option.bind_eq_some_iff]

theorem equality_isOk_iff : (∃ test, c.equality known negated = .ok test) ↔
    c.value.isBindable = true ∨
      (∃ items, c.value = .arr items ∧ ∀ item ∈ items, item.isBindable = true) ∨
      (c.value = .null ∧ c.AcceptsNull known) := by
  rw [acceptsNull_iff, ← Bound.ofJson_isOk_iff c.column]
  simp only [equality_eq_ok_iff, ← Bound.ofItems_isOk_iff c.column]
  constructor
  · rintro ⟨test, ⟨b, hb, -⟩ | ⟨items, values, hv, hb, -⟩ | ⟨hv, haccepts, -⟩⟩
    · exact .inl ⟨b, hb⟩
    · exact .inr (.inl ⟨items, hv, values, hb⟩)
    · exact .inr (.inr ⟨hv, haccepts⟩)
  · rintro (⟨b, hb⟩ | ⟨items, hv, values, hb⟩ | ⟨hv, haccepts⟩)
    · exact ⟨_, .inl ⟨b, hb, rfl⟩⟩
    · exact ⟨_, .inr (.inl ⟨items, values, hv, hb, rfl⟩)⟩
    · exact ⟨_, .inr (.inr ⟨hv, haccepts, rfl⟩)⟩

theorem order_isOk_iff {op : Sql.Comparison} :
    (∃ test, c.order op = .ok test) ↔ c.value.isBindable = true := by
  simp [order_eq_ok_iff, ← Bound.ofJson_isOk_iff c.column]

theorem pattern_isOk_iff : (∃ test, c.pattern negated = .ok test) ↔
    (∃ s, c.value = .str s) ∨ ∃ n, c.value = .num n := by
  simp only [pattern_eq_ok_iff]
  constructor
  · rintro ⟨test, s, hs | ⟨n, hn, -⟩, -⟩
    · exact .inl ⟨s, hs⟩
    · exact .inr ⟨n, hn⟩
  · rintro (⟨s, hs⟩ | ⟨n, hn⟩)
    · exact ⟨_, s, .inl hs, rfl⟩
    · exact ⟨_, n.text, .inr ⟨n, hn, rfl⟩, rfl⟩

theorem range_isOk_iff : (∃ test, c.range negated = .ok test) ↔
    ∃ low high, c.value = .arr [low, high] ∧ low.isBindable = true ∧ high.isBindable = true := by
  simp only [range_eq_ok_iff, ← Bound.ofJson_isOk_iff c.column]
  constructor
  · rintro ⟨test, low, high, l, h, hv, hl, hh, -⟩
    exact ⟨low, high, hv, ⟨l, hl⟩, h, hh⟩
  · rintro ⟨low, high, hv, ⟨l, hl⟩, h, hh⟩
    exact ⟨_, low, high, l, h, hv, hl, hh, rfl⟩

/-- A condition is compiled if its operator takes the value. -/
theorem test_isOk_iff (c : Condition) (known : Option TableColumns) :
    (∃ test, c.test known = .ok test) ↔ c.Admissible known := by
  unfold Condition.test Admissible
  cases c.operator with
  | eq | ne => exact equality_isOk_iff
  | lt | le | gt | ge => exact order_isOk_iff
  | like | notLike => exact pattern_isOk_iff
  | between | notBetween => exact range_isOk_iff

/-! ### Refusals -/

theorem equality_blames {e : Error} (h : c.equality known negated = .error e) :
    e.Blames c.column := by
  rcases c.value.null_or_arr_or_scalar with hv | ⟨items, hv⟩ | hs
  · simp only [equality, hv] at h
    split at h <;> cases h
    exact ⟨_, rfl, rfl⟩
  · simp only [equality, hv] at h
    split at h
    case h_1 he =>
      cases h
      exact Bound.ofItems_blames he
    case h_2 => cases h
  · rw [equality_of_scalar known hs] at h
    obtain he | ⟨b, -, h⟩ := bind_eq_error h
    · exact Bound.ofJson_blames he
    · cases h

theorem order_blames {op : Sql.Comparison} {e : Error} (h : c.order op = .error e) :
    e.Blames c.column := by
  rcases c.value.null_or_arr_or_scalar with hv | ⟨items, hv⟩ | hs
  · simp only [order, hv] at h
    cases h
    exact ⟨_, rfl, rfl⟩
  · simp only [order, hv] at h
    cases h
    exact ⟨_, rfl, rfl⟩
  · rw [order_of_scalar hs] at h
    obtain he | ⟨b, -, h⟩ := bind_eq_error h
    · exact Bound.ofJson_blames he
    · cases h

theorem pattern_blames {e : Error} (h : c.pattern negated = .error e) : e.Blames c.column := by
  unfold pattern at h
  split at h <;> cases h <;> exact ⟨_, rfl, rfl⟩

theorem range_blames {e : Error} (h : c.range negated = .error e) : e.Blames c.column := by
  unfold range at h
  split at h
  case h_1 =>
    split at h
    case h_1 he =>
      cases h
      exact Bound.ofJson_blames he
    case h_2 =>
      split at h
      case h_1 he =>
        cases h
        exact Bound.ofJson_blames he
      case h_2 => cases h
  case h_2 =>
    cases h
    exact ⟨_, rfl, rfl⟩

theorem test_blames {e : Error} (h : c.test known = .error e) : e.Blames c.column := by
  unfold Condition.test at h
  split at h
  case h_1 | h_2 => exact equality_blames h
  case h_3 | h_4 | h_5 | h_6 => exact order_blames h
  case h_7 | h_8 => exact pattern_blames h
  case h_9 | h_10 => exact range_blames h

/-! ### What is written -/

theorem written_compare {b : Bound} {op : Sql.Comparison} (column : ColumnRef)
    (hmem : c.operator ∈ [.eq, .ne, .lt, .le, .gt, .ge])
    (hsql : op.sql = " " ++ c.operator.sql ++ " ") (hb : c.value.BoundAs b) :
    c.Written column.pieces (Sql.Atom.pieces ⟨column, .compare op b⟩) [[b]] := by
  show c.Written column.pieces (column.pieces ++ [.text op.sql, .bind b]) [[b]]
  rw [hsql]
  exact .compare hmem hb

theorem written_like {s : String} (column : ColumnRef) (hmem : c.operator ∈ [.like, .notLike])
    (hsql : (if negated then " NOT LIKE " else " LIKE ") = " " ++ c.operator.sql ++ " ")
    (hs : c.value = .str s ∨ ∃ n, c.value = .num n ∧ s = n.text) :
    c.Written column.pieces (Sql.Atom.pieces ⟨column, .like negated s⟩) [[.text s]] := by
  show c.Written column.pieces (column.pieces ++
    [.text (if negated then " NOT LIKE " else " LIKE "), .bind (.text s)]) [[.text s]]
  rw [hsql]
  exact .pattern hmem hs

theorem written_between {low high : Json} {l h : Bound} (column : ColumnRef)
    (hmem : c.operator ∈ [.between, .notBetween])
    (hsql : (if negated then " NOT BETWEEN " else " BETWEEN ") = " " ++ c.operator.sql ++ " ")
    (hv : c.value = .arr [low, high]) (hl : low.BoundAs l) (hh : high.BoundAs h) :
    c.Written column.pieces (Sql.Atom.pieces ⟨column, .between negated l h⟩) [[l], [h]] := by
  show c.Written column.pieces (column.pieces ++
    [.text (if negated then " NOT BETWEEN " else " BETWEEN "), .bind l, .text " AND ", .bind h])
    [[l], [h]]
  rw [hsql]
  exact .range hmem hv hl hh

theorem written_of_equality (h : c.equality known negated = .ok test)
    (hop : c.operator = if negated then .ne else .eq) (column : ColumnRef) :
    c.Written column.pieces (Sql.Atom.pieces ⟨column, test⟩) test.parameters := by
  obtain ⟨b, hb, rfl⟩ | ⟨items, values, hv, hvalues, rfl⟩ | ⟨hv, -, rfl⟩ := equality_eq_ok_iff.1 h
  · apply written_compare column _ _ (Bound.ofJson_eq_ok_iff.1 hb)
    · rw [hop]
      cases negated <;> simp
    · rw [hop]
      cases negated <;> rfl
  · have hbound := Bound.ofItems_eq_ok_iff.1 hvalues
    cases hbound with
    | nil => exact .noMembers negated hop hv
    | cons hfirst hrest => exact .members negated hop hv (by simp) (.cons hfirst hrest)
  · exact .null negated hop hv

/-- The test of a condition is written as the operator is, and binds the values of the condition. -/
theorem written_of_test (h : c.test known = .ok test) (column : ColumnRef) :
    c.Written column.pieces (Sql.Atom.pieces ⟨column, test⟩) test.parameters := by
  unfold Condition.test at h
  split at h
  case h_1 hop | h_2 hop => exact written_of_equality h hop column
  case h_3 hop | h_4 hop | h_5 hop | h_6 hop =>
    obtain ⟨b, hb, rfl⟩ := order_eq_ok_iff.1 h
    exact written_compare column (by simp [hop]) (by rw [hop]; rfl) (Bound.ofJson_eq_ok_iff.1 hb)
  case h_7 hop | h_8 hop =>
    obtain ⟨s, hs, rfl⟩ := pattern_eq_ok_iff.1 h
    exact written_like column (by simp [hop]) (by rw [hop]; rfl) hs
  case h_9 hop | h_10 hop =>
    obtain ⟨low, high, l, h, hv, hl, hh, rfl⟩ := range_eq_ok_iff.1 h
    exact written_between column (by simp [hop]) (by rw [hop]; rfl) hv (Bound.ofJson_eq_ok_iff.1 hl)
      (Bound.ofJson_eq_ok_iff.1 hh)

end Condition

/-! ## Lists of conditions -/

variable {known : Option TableColumns} {target : ColumnTarget}

/-- What is made of a condition. -/
structure CompiledCondition.CameFrom (target : ColumnTarget) (c : Condition)
    (compiled : CompiledCondition) : Prop where
  column : compiled.column = c.column
  operator : compiled.operator = c.operator
  reference : compiled.atom.column = ColumnRef.of target c.column
  written : c.Written (ColumnRef.of target c.column).pieces compiled.atom.pieces
    (compiled.params.map NamedParam.values)

theorem Condition.CompilesTo.cameFrom {c : Condition} {compiled : CompiledCondition}
    (h : c.CompilesTo known target compiled) : CompiledCondition.CameFrom target c compiled := by
  obtain ⟨test, htest, hatom⟩ := Condition.atom_of_ok h.atom
  refine ⟨h.column, h.operator, by rw [hatom], ?_⟩
  rw [h.values, hatom]
  exact Condition.written_of_test htest _

theorem atom_isOk_iff {c : Condition} (target : ColumnTarget) :
    (∃ atom, c.atom known target = .ok atom) ↔ c.Admissible known := by
  rw [← c.test_isOk_iff known]
  constructor
  · rintro ⟨atom, hatom⟩
    obtain ⟨test, htest, -⟩ := Condition.atom_of_ok hatom
    exact ⟨test, htest⟩
  · rintro ⟨test, htest⟩
    exact ⟨_, by rw [Condition.atom, htest]⟩

theorem atom_blames {c : Condition} {e : Error} (h : c.atom known target = .error e) :
    e.Blames c.column := by
  unfold Condition.atom at h
  split at h <;> cases h
  exact Condition.test_blames ‹_›

/-- A list is compiled up to its first condition that is not admissible. -/
theorem compileFrom_append_error {before : List Condition} (used : ParamNames) {c : Condition}
    {e : Error} (hbefore : ∀ b ∈ before, b.Admissible known)
    (hc : c.atom known target = .error e) (after : List Condition) :
    compileFrom known target used (before ++ c :: after) = .error e := by
  induction before generalizing used with
  | nil =>
    rw [List.nil_append, compileFrom_cons, hc]
    rfl
  | cons b rest ih =>
    obtain ⟨hb, hrest⟩ := List.forall_mem_cons.1 hbefore
    obtain ⟨atom, hatom⟩ := (atom_isOk_iff target).2 hb
    rw [List.cons_append, compileFrom_cons, hatom]
    simp only [bind, Except.bind, ih _ hrest]

theorem compileFrom_isOk {cs : List Condition} (h : ∀ c ∈ cs, c.Admissible known)
    (used : ParamNames) : ∃ compiled, compileFrom known target used cs = .ok compiled := by
  induction cs generalizing used with
  | nil => exact ⟨[], rfl⟩
  | cons c rest ih =>
    obtain ⟨hc, hrest⟩ := List.forall_mem_cons.1 h
    obtain ⟨atom, hatom⟩ := (atom_isOk_iff target).2 hc
    obtain ⟨more, hmore⟩ := ih hrest (used.assign c.base c.operator atom.test).2
    rw [compileFrom_cons, hatom]
    simp only [bind, Except.bind, hmore]
    exact ⟨_, rfl⟩

/-- A list is compiled if all its conditions are admissible, and each is written as its operator and
its value say. Otherwise it is refused on account of the first that is not, whatever follows it. -/
theorem compiles_admissible (known : Option TableColumns) (target : ColumnTarget) :
    (∀ cs, (∃ compiled, compile cs known target = .ok compiled) ↔ ∀ c ∈ cs, c.Admissible known) ∧
    (∀ cs compiled, compile cs known target = .ok compiled →
      List.Forall₂ (CompiledCondition.CameFrom target) cs compiled) ∧
    (∀ c, ¬ c.Admissible known → ∃ fault, fault.column? = some c.column ∧
      ∀ before after, (∀ b ∈ before, b.Admissible known) →
        compile (before ++ c :: after) known target = .error (.invalidArgument fault)) := by
  refine ⟨fun cs => ⟨?_, fun h => compileFrom_isOk h []⟩, fun cs compiled h =>
      (forall₂_of_compileFrom h).imp fun _ _ hc => hc.cameFrom,
    fun c hc => ?_⟩
  · rintro ⟨compiled, h⟩ c hc
    obtain ⟨_, -, hc⟩ := exists_mem_of_forall₂ (forall₂_of_compileFrom h) hc
    exact (atom_isOk_iff target).1 ⟨_, hc.atom⟩
  · cases hatom : c.atom known target with
    | ok atom => exact absurd ((atom_isOk_iff target).1 ⟨atom, hatom⟩) hc
    | error e =>
      obtain ⟨fault, rfl, hfault⟩ := atom_blames hatom
      exact ⟨fault, hfault, fun before after hbefore =>
        compileFrom_append_error [] hbefore hatom after⟩

/-! ### Conditions on items -/

def knownItems : TableColumns := ⟨"items", [⟨"id", false⟩, ⟨"note", true⟩, ⟨"price", false⟩]⟩

def itemConditions : List Condition :=
  [⟨"main.id", "main.id", .eq, .arr [.ofNat 1, .ofNat 2]⟩, ⟨"note !=", "note", .ne, .null⟩,
    ⟨"price BETWEEN", "price", .between, .arr [.ofNat 1, .ofNat 5]⟩]

/-- A pattern that is no text. -/
def boolPattern : Condition := ⟨"note LIKE", "note", .like, .bool true⟩

theorem compiles_admissible_items :
    (∃ compiled, compile itemConditions (some knownItems) .qualified = .ok compiled ∧
      List.Forall₂ (CompiledCondition.CameFrom .qualified) itemConditions compiled) ∧
    ∃ fault, Fault.column? fault = some "note" ∧ ∀ after,
      compile (itemConditions ++ boolPattern :: after) (some knownItems) .qualified =
        .error (.invalidArgument fault) := by
  have hnote : baseColumn "note" = "note" := by decide
  have hadmissible : ∀ c ∈ itemConditions, c.Admissible (some knownItems) := by
    simp [itemConditions, Condition.Admissible, Condition.AcceptsNull, Condition.base, hnote,
      knownItems, Json.ofNat, Json.isBindable, Decimal.maxSigned64]
  have hpattern : ¬ boolPattern.Admissible (some knownItems) := by
    simp [boolPattern, Condition.Admissible]
  obtain ⟨hiff, hcame, hrefused⟩ := compiles_admissible (some knownItems) .qualified
  obtain ⟨compiled, hcompiled⟩ := (hiff itemConditions).2 hadmissible
  obtain ⟨fault, hfault, herror⟩ := hrefused boolPattern hpattern
  exact ⟨⟨compiled, hcompiled, hcame _ _ hcompiled⟩, fault, hfault,
    fun after => herror itemConditions after hadmissible⟩

end FilterSql

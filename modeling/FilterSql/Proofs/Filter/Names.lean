import Mathlib.Data.Finset.Card
import Mathlib.Data.Nat.Find
import FilterSql.Proofs.Filter.Conditions

/-!
# FilterSql.Proofs.Filter.Names

The names of the parameters of a filter. No two of them are the same, even where a name that is
made up for one condition is the name of another column.

* `ParamNames.Numbers`: numbers tried one after another until a name is free.
* `ParamNames.IsLeastFree.numbers`, `ParamNames.IsLeastFree.le_card`: the search ends at the least
  free number, and how many numbers it tries.
* `Condition.Named`: the names for one condition where some names are taken.
* `NamedInTurn`: conditions named one after another, as a filter is compiled.
* `names_distinct`: the names of a filter.
-/

namespace FilterSql

/-! ## Numbered names -/

namespace ParamNames

variable {taken : ParamNames} {name : String} {n tries : Nat}

def numbered (name : String) (n : Nat) : String := name ++ toString n

theorem numbered_injective (name : String) : Function.Injective (numbered name) := by
  intro n m h
  have hdigits : Nat.toDigits 10 n = Nat.toDigits 10 m := by
    have htext := congrArg String.toList ((String.append_right_inj name).1 h)
    simpa only [Nat.toString_eq_repr, Nat.toList_repr] using htext
  have hvalue := congrArg (fun digits => Nat.ofDigitChars 10 digits 0) hdigits
  simpa only [Nat.ofDigitChars_ten_toDigits] using hvalue

/-- A search that starts at a number and ends, after some tries, with a name that is not taken. -/
inductive Numbers (taken : ParamNames) (name : String) : Nat → Nat → String → Prop
  | stop {n : Nat} (free : numbered name n ∉ taken) : Numbers taken name n 1 (numbered name n)
  | next {n tries : Nat} {found : String} (used : numbered name n ∈ taken)
      (rest : Numbers taken name (n + 1) tries found) : Numbers taken name n (tries + 1) found

/-- The least number from 2 on that makes a free name. -/
structure IsLeastFree (taken : ParamNames) (name : String) (n : Nat) : Prop where
  two_le : 2 ≤ n
  free : numbered name n ∉ taken
  least : ∀ k, 2 ≤ k → k < n → numbered name k ∈ taken

theorem numbers_of_used {start : Nat} (free : numbered name (start + tries) ∉ taken)
    (used : ∀ k, start ≤ k → k < start + tries → numbered name k ∈ taken) :
    Numbers taken name start (tries + 1) (numbered name (start + tries)) := by
  induction tries generalizing start with
  | zero => exact .stop free
  | succ tries ih =>
    have hmove : start + 1 + tries = start + (tries + 1) := by omega
    rw [← hmove] at free used ⊢
    exact .next (used start (Nat.le_refl _) (by omega)) (ih free fun k hk => used k (by omega))

/-- Some number is free: there are more numbers than names to take them. -/
theorem exists_free (taken : ParamNames) (name : String) :
    ∃ k ≤ taken.toFinset.card, numbered name (k + 2) ∉ taken := by
  have hinjective : Function.Injective fun k => numbered name (k + 2) := fun i j h =>
    Nat.add_right_cancel (numbered_injective name h)
  have hcard : taken.toFinset.card <
      ((Finset.range (taken.toFinset.card + 1)).image fun k => numbered name (k + 2)).card := by
    rw [Finset.card_image_of_injective _ hinjective, Finset.card_range]
    exact Nat.lt_succ_self _
  obtain ⟨found, hfound, hfree⟩ := Finset.exists_mem_notMem_of_card_lt_card hcard
  obtain ⟨k, hk, rfl⟩ := Finset.mem_image.1 hfound
  exact ⟨k, Nat.lt_succ_iff.1 (Finset.mem_range.1 hk), by simpa using hfree⟩

theorem exists_isLeastFree (taken : ParamNames) (name : String) :
    ∃ n, taken.IsLeastFree name n := by
  obtain ⟨bound, -, hfree⟩ := exists_free taken name
  have hexists : ∃ n, 2 ≤ n ∧ numbered name n ∉ taken := ⟨bound + 2, Nat.le_add_left _ _, hfree⟩
  obtain ⟨htwo, hn⟩ := Nat.find_spec hexists
  refine ⟨Nat.find hexists, htwo, hn, fun k hk hlt => ?_⟩
  have hmin := Nat.find_min hexists hlt
  simpa [hk] using hmin

theorem IsLeastFree.le_card (hn : taken.IsLeastFree name n) : n ≤ taken.toFinset.card + 2 := by
  obtain ⟨k, hk, hfree⟩ := exists_free taken name
  by_contra hlt
  exact hfree (hn.least (k + 2) (Nat.le_add_left _ _) (by omega))

theorem IsLeastFree.numbers (hn : taken.IsLeastFree name n) :
    Numbers taken name 2 (n - 1) (numbered name n) := by
  obtain ⟨tries, rfl⟩ := Nat.exists_eq_add_of_le hn.two_le
  have htries : 2 + tries - 1 = tries + 1 := by omega
  rw [htries]
  exact numbers_of_used hn.free hn.least

theorem free_of_not_mem (h : name ∉ taken) : taken.free name = name := by
  rw [free, if_neg (by simpa using h)]

theorem free_of_mem (h : name ∈ taken) (hn : taken.IsLeastFree name n) :
    taken.free name = numbered name n := by
  have hcard := hn.le_card
  have hlength := List.toFinset_card_le taken
  have htwo := hn.two_le
  have hfound : (List.range (taken.length + 1)).find?
      ((fun m => !taken.contains m) ∘ fun k => numbered name (k + 2)) = some (n - 2) := by
    rw [List.find?_range_eq_some]
    refine ⟨?_, List.mem_range.2 (by omega), fun k hk => ?_⟩
    · have hfree := hn.free
      simpa [Nat.sub_add_cancel htwo] using hfree
    · have hused := hn.least (k + 2) (by omega) (by omega)
      simpa using hused
  rw [free, if_pos (by simpa using h)]
  show (((List.range (taken.length + 1)).map fun k => numbered name (k + 2)).find?
    fun m => !taken.contains m).getD name = _
  rw [List.find?_map, hfound, Option.map_some, Option.getD_some, Nat.sub_add_cancel htwo]

/-! ## Names of parameters -/

/-- What becomes of a name: it stays as it is, or a number is put behind it. -/
inductive Freed (taken : ParamNames) (name : String) : String → Prop
  | plain (free : name ∉ taken) : Freed taken name name
  | number {n : Nat} (used : name ∈ taken) (least : taken.IsLeastFree name n) :
      Freed taken name (numbered name n)

/-- The name for a base name and a role. -/
inductive Chosen (taken : ParamNames) (base role : String) : String → Prop
  | bare (free : base ∉ taken) : Chosen taken base role base
  | role {name : String} (used : base ∈ taken) (freed : taken.Freed (base ++ role) name) :
      Chosen taken base role name

theorem freed_free (taken : ParamNames) (name : String) : taken.Freed name (taken.free name) := by
  by_cases h : name ∈ taken
  · obtain ⟨n, hn⟩ := exists_isLeastFree taken name
    rw [free_of_mem h hn]
    exact .number h hn
  · rw [free_of_not_mem h]
    exact .plain h

theorem chosen_choose (taken : ParamNames) (base role : String) :
    taken.Chosen base role (taken.choose base role) := by
  rw [choose]
  split
  case isTrue h => exact .role (by simpa using h) (freed_free _ _)
  case isFalse h => exact .bare (by simpa using h)

theorem Freed.not_mem {found : String} (h : taken.Freed name found) : found ∉ taken := by
  cases h with
  | plain free => exact free
  | number _ least => exact least.free

theorem Chosen.not_mem {base role : String} (h : taken.Chosen base role name) :
    name ∉ taken := by
  cases h with
  | bare free => exact free
  | role _ freed => exact freed.not_mem

theorem Freed.length_le {found : String} (h : taken.Freed name found) :
    name.length ≤ found.length := by
  cases h with
  | plain => exact Nat.le_refl _
  | number => rw [numbered, String.length_append]; exact Nat.le_add_right _ _

/-- A base name that is taken is not chosen, for a role makes any name longer. -/
theorem Chosen.eq_base_iff {base role : String} (hrole : role ≠ "")
    (h : taken.Chosen base role name) : name = base ↔ base ∉ taken := by
  cases h with
  | bare free => exact iff_of_true rfl free
  | role used freed =>
    have hlong := freed.length_le
    have hpos : role.length ≠ 0 := by simpa using hrole
    rw [String.length_append] at hlong
    refine iff_of_false ?_ (not_not.2 used)
    rintro rfl
    omega

end ParamNames

/-! ## Conditions -/

namespace Condition

/-- A condition with one parameter: neither a range nor a test for NULL. -/
structure IsSingle (c : Condition) : Prop where
  operator_ne : c.operator ≠ .between ∧ c.operator ≠ .notBetween
  value_ne : c.value.isNull = false

/-- The word that tells the parameter of a condition from those of others on the same column. -/
def role (c : Condition) : String :=
  match c.operator, c.value with
  | .eq, .arr _ => "In"
  | .ne, .arr _ => "NotIn"
  | op, _ => op.role

/-- The names for a condition where some names are taken. -/
inductive Named (taken : ParamNames) (c : Condition) : List String → Prop
  | null (value : c.value.isNull = true) : Named taken c []
  | range {low high : String} (operator : c.operator = .between ∨ c.operator = .notBetween)
      (lowest : taken.Freed (c.base ++ "GreaterThan") low)
      (highest : ParamNames.Freed (low :: taken) (c.base ++ "LessThan") high) :
      Named taken c [low, high]
  | single {name : String} (is_single : c.IsSingle) (chosen : taken.Chosen c.base c.role name) :
      Named taken c [name]

variable {c : Condition} {known : Option TableColumns} {test : Sql.Test}

theorem role_ne_empty (c : Condition) : c.role ≠ "" := by
  unfold role
  split
  · decide
  · decide
  · cases c.operator <;> decide

theorem role_of_ofJson_ok {b : Bound} (h : Bound.ofJson c.column c.value = .ok b) :
    c.role = c.operator.role := by
  unfold role
  split
  case h_1 hv | h_2 hv =>
    rw [hv] at h
    cases h
  case h_3 => rfl

theorem named_compare {op : Sql.Comparison} {b : Bound} (taken : ParamNames)
    (hop : c.operator ≠ .between ∧ c.operator ≠ .notBetween)
    (hb : Bound.ofJson c.column c.value = .ok b) :
    c.Named taken ((taken.assign c.base c.operator (.compare op b)).1.map NamedParam.name) := by
  have hchosen := ParamNames.chosen_choose taken c.base c.role
  rw [role_of_ofJson_ok hb] at hchosen
  have hnull : c.value.isNull = false := (Bound.ofJson_eq_ok_iff.1 hb).isNull_eq_false
  exact .single ⟨hop, hnull⟩ (role_of_ofJson_ok hb ▸ hchosen)

theorem named_equality {negated : Bool} (taken : ParamNames)
    (hop : c.operator = if negated then .ne else .eq) (h : c.equality known negated = .ok test) :
    c.Named taken ((taken.assign c.base c.operator test).1.map NamedParam.name) := by
  have hne : c.operator ≠ .between ∧ c.operator ≠ .notBetween := by
    cases negated <;> simp [hop]
  obtain ⟨b, hb, rfl⟩ | ⟨items, values, hv, -, rfl⟩ | ⟨hv, -, rfl⟩ := equality_eq_ok_iff.1 h
  · exact named_compare taken hne hb
  · have hrole : c.role = if negated then "NotIn" else "In" := by
      cases negated <;> simp [role, hop, hv]
    have hchosen := ParamNames.chosen_choose taken c.base c.role
    rw [hrole] at hchosen
    exact .single ⟨hne, by rw [hv]; rfl⟩ (hrole ▸ hchosen)
  · exact .null (by rw [hv]; rfl)

theorem named_order {op : Sql.Comparison} (taken : ParamNames)
    (hop : c.operator ≠ .between ∧ c.operator ≠ .notBetween) (h : c.order op = .ok test) :
    c.Named taken ((taken.assign c.base c.operator test).1.map NamedParam.name) := by
  obtain ⟨b, hb, rfl⟩ := order_eq_ok_iff.1 h
  exact named_compare taken hop hb

theorem named_pattern {negated : Bool} (taken : ParamNames)
    (hop : c.operator = if negated then .notLike else .like)
    (h : c.pattern negated = .ok test) :
    c.Named taken ((taken.assign c.base c.operator test).1.map NamedParam.name) := by
  have hne : c.operator ≠ .between ∧ c.operator ≠ .notBetween := by
    cases negated <;> simp [hop]
  obtain ⟨s, hv, rfl⟩ := pattern_eq_ok_iff.1 h
  have hrole : c.role = c.operator.role := by
    cases negated <;> simp [role, hop]
  have hnull : c.value.isNull = false := by
    obtain hv | ⟨n, hv, -⟩ := hv <;> rw [hv] <;> rfl
  have hchosen := ParamNames.chosen_choose taken c.base c.role
  rw [hrole] at hchosen
  exact .single ⟨hne, hnull⟩ (hrole ▸ hchosen)

theorem named_range {negated : Bool} (taken : ParamNames)
    (hop : c.operator = if negated then .notBetween else .between)
    (h : c.range negated = .ok test) :
    c.Named taken ((taken.assign c.base c.operator test).1.map NamedParam.name) := by
  obtain ⟨low, high, l, h', -, -, -, rfl⟩ := range_eq_ok_iff.1 h
  refine .range ?_ (ParamNames.freed_free _ _) (ParamNames.freed_free _ _)
  cases negated <;> simp [hop]

theorem named_of_test (h : c.test known = .ok test) (taken : ParamNames) :
    c.Named taken ((taken.assign c.base c.operator test).1.map NamedParam.name) := by
  unfold Condition.test at h
  split at h
  case h_1 hop | h_2 hop => exact named_equality taken (by simp [hop]) h
  case h_3 hop | h_4 hop | h_5 hop | h_6 hop => exact named_order taken (by simp [hop]) h
  case h_7 hop | h_8 hop => exact named_pattern taken (by simp [hop]) h
  case h_9 hop | h_10 hop => exact named_range taken (by simp [hop]) h

theorem Named.nodup {taken : ParamNames} {names : List String} (h : c.Named taken names)
    (ht : taken.Nodup) : (names.reverse ++ taken).Nodup := by
  cases h with
  | null => exact ht
  | range _ lowest highest =>
    exact List.nodup_cons.2 ⟨highest.not_mem, List.nodup_cons.2 ⟨lowest.not_mem, ht⟩⟩
  | single _ chosen => exact List.nodup_cons.2 ⟨chosen.not_mem, ht⟩

/-- The base name of a condition with one parameter is taken from there on. -/
theorem Named.base_mem {taken : ParamNames} {names : List String} (h : c.Named taken names)
    (hc : c.IsSingle) : c.base ∈ names.reverse ++ taken := by
  cases h with
  | null hv => exact absurd (hc.value_ne.symm.trans hv) (by decide)
  | range hop =>
    rcases hop with hop | hop
    · exact absurd hop hc.operator_ne.1
    · exact absurd hop hc.operator_ne.2
  | single _ chosen =>
    cases chosen with
    | bare => simp
    | role used => simp [used]

theorem Named.eq_base_iff {taken : ParamNames} {names : List String} (h : c.Named taken names)
    (hc : c.IsSingle) : names = [c.base] ↔ c.base ∉ taken := by
  cases h with
  | null hv => exact absurd (hc.value_ne.symm.trans hv) (by decide)
  | range hop =>
    rcases hop with hop | hop
    · exact absurd hop hc.operator_ne.1
    · exact absurd hop hc.operator_ne.2
  | single _ chosen => rw [List.singleton_inj, chosen.eq_base_iff c.role_ne_empty]

end Condition

/-! ## Filters -/

variable {known : Option TableColumns} {target : ColumnTarget} {taken : ParamNames}

theorem ParamNames.assign_taken (taken : ParamNames) (base : String) (op : Operator)
    (test : Sql.Test) :
    (taken.assign base op test).2 =
      ((taken.assign base op test).1.map NamedParam.name).reverse ++ taken := by
  cases test <;> rfl

/-- Conditions that are named one after another, where some names are taken beforehand. -/
inductive NamedInTurn : ParamNames → List Condition → List CompiledCondition → Prop
  | nil {taken : ParamNames} : NamedInTurn taken [] []
  | cons {taken : ParamNames} {c : Condition} {rest : List Condition} {own : CompiledCondition}
      {later : List CompiledCondition} (column : own.column = c.column)
      (named : c.Named taken (own.params.map NamedParam.name))
      (others : NamedInTurn ((own.params.map NamedParam.name).reverse ++ taken) rest later) :
      NamedInTurn taken (c :: rest) (own :: later)

theorem namedInTurn_of_compileFrom {cs : List Condition} {compiled : List CompiledCondition}
    (h : compileFrom known target taken cs = .ok compiled) : NamedInTurn taken cs compiled := by
  induction cs generalizing taken compiled with
  | nil =>
    cases h
    exact .nil
  | cons c rest ih =>
    rw [compileFrom_cons] at h
    obtain ⟨atom, hatom, h⟩ := bind_eq_ok h
    obtain ⟨later, hlater, h⟩ := bind_eq_ok h
    cases h
    obtain ⟨test, htest, rfl⟩ := Condition.atom_of_ok hatom
    rw [ParamNames.assign_taken] at hlater
    exact .cons rfl (Condition.named_of_test htest taken) (ih hlater)

namespace NamedInTurn

variable {cs before after : List Condition} {c : Condition} {compiled : List CompiledCondition}

theorem nodup (h : NamedInTurn taken cs compiled) (ht : taken.Nodup) :
    ((CompiledCondition.namedParams compiled).reverse ++ taken).Nodup := by
  induction h with
  | nil => exact ht
  | cons _ named _ ih =>
    have hrest := ih (named.nodup ht)
    simpa [CompiledCondition.namedParams] using hrest

/-- A condition in the middle is named where the names for those in front of it are taken. -/
theorem exists_of_append (h : NamedInTurn taken (before ++ c :: after) compiled) :
    ∃ earlier own later, compiled = earlier ++ own :: later ∧ NamedInTurn taken before earlier ∧
      own.column = c.column ∧
      c.Named ((CompiledCondition.namedParams earlier).reverse ++ taken)
        (own.params.map NamedParam.name) := by
  induction before generalizing taken compiled with
  | nil =>
    cases h with
    | cons column named _ => exact ⟨[], _, _, rfl, .nil, column, named⟩
  | cons b rest ih =>
    cases h with
    | @cons _ _ _ first _ hfirst hnamed others =>
      obtain ⟨earlier, own, later, rfl, hearlier, hcolumn, hown⟩ := ih others
      refine ⟨first :: earlier, own, later, rfl, .cons hfirst hnamed hearlier, hcolumn, ?_⟩
      simpa [CompiledCondition.namedParams] using hown

theorem length_eq (h : NamedInTurn taken cs compiled) : compiled.length = cs.length := by
  induction h with
  | nil => rfl
  | cons _ _ _ ih => rw [List.length_cons, List.length_cons, ih]

theorem base_mem (h : NamedInTurn taken cs compiled) (hc : c ∈ cs) (hsingle : c.IsSingle) :
    c.base ∈ (CompiledCondition.namedParams compiled).reverse ++ taken := by
  induction h with
  | nil => cases hc
  | @cons taken _ _ own later _ named _ ih =>
    rcases List.mem_cons.1 hc with rfl | hc
    · have hmem := named.base_mem hsingle
      simp only [List.mem_append, List.mem_reverse] at hmem
      simp only [CompiledCondition.namedParams, List.flatMap_cons, List.mem_append,
        List.mem_reverse]
      tauto
    · have hmem := ih hc
      simpa [CompiledCondition.namedParams] using hmem

end NamedInTurn

/-- The names of a filter are distinct, and each is the base name of its condition, with a role and
perhaps a number behind it. A condition with one parameter has the bare base name if it is the first
such condition on its column and no name that was made up for another is the same. Whatever names
are taken, the least free number is found, and at most one number more is tried than names are
taken. -/
theorem names_distinct (known : Option TableColumns) (target : ColumnTarget) :
    (∀ cs compiled, compile cs known target = .ok compiled →
      (CompiledCondition.namedParams compiled).Nodup) ∧
    (∀ before c after compiled, compile (before ++ c :: after) known target = .ok compiled →
      ∃ earlier own later, compiled = earlier ++ own :: later ∧ earlier.length = before.length ∧
        own.column = c.column ∧
        c.Named (CompiledCondition.namedParams earlier).reverse
          (own.params.map NamedParam.name) ∧
        (c.IsSingle → (own.params.map NamedParam.name = [c.base] ↔
          (∀ b ∈ before, b.base = c.base → ¬ b.IsSingle) ∧
            c.base ∉ CompiledCondition.namedParams earlier))) ∧
    (∀ (taken : ParamNames) (name : String), ∃ n tries, taken.IsLeastFree name n ∧
      ParamNames.Numbers taken name 2 tries (ParamNames.numbered name n) ∧
      tries ≤ taken.toFinset.card + 1 ∧
      (name ∈ taken → taken.free name = ParamNames.numbered name n)) := by
  refine ⟨fun cs compiled h => ?_, fun before c after compiled h => ?_, fun taken name => ?_⟩
  · have hnodup := (namedInTurn_of_compileFrom h).nodup List.nodup_nil
    simpa using hnodup
  · obtain ⟨earlier, own, later, rfl, hearlier, hcolumn, hnamed⟩ :=
      (namedInTurn_of_compileFrom h).exists_of_append
    rw [List.append_nil] at hnamed
    refine ⟨earlier, own, later, rfl, hearlier.length_eq, hcolumn, hnamed, fun hsingle => ?_⟩
    rw [hnamed.eq_base_iff hsingle, List.mem_reverse]
    refine ⟨fun hfree => ⟨fun b hb hbase hother => hfree ?_, hfree⟩, fun hfree => hfree.2⟩
    have hmem := hearlier.base_mem hb hother
    simpa [hbase] using hmem
  · obtain ⟨n, hn⟩ := ParamNames.exists_isLeastFree taken name
    have hcard := hn.le_card
    exact ⟨n, n - 1, hn, hn.numbers, by omega, fun hname => ParamNames.free_of_mem hname hn⟩

/-! ### A column with a made-up name -/

def fromTwo : Condition := ⟨"main.id >=", "main.id", .ge, .ofNat 2⟩

/-- The column has the name that a second condition on the id would be given. -/
def ofNine : Condition := ⟨"idLessThan", "idLessThan", .eq, .ofNat 9⟩

def belowSeven : Condition := ⟨"id <", "id", .lt, .ofNat 7⟩

theorem names_distinct_idLessThan :
    ∃ compiled, compile [fromTwo, ofNine, belowSeven] none .qualified = .ok compiled ∧
      CompiledCondition.namedParams compiled = ["id", "idLessThan", "idLessThan2"] ∧
      (CompiledCondition.namedParams compiled).Nodup ∧
      (∃ earlier own later, compiled = earlier ++ own :: later ∧ earlier.length = 2 ∧
        own.params.map NamedParam.name ≠ [belowSeven.base]) ∧
      ∃ n, ParamNames.free ["idLessThan", "id"] "idLessThan" =
        ParamNames.numbered "idLessThan" n := by
  obtain ⟨hnodup, hnamed, hnumbers⟩ := names_distinct none .qualified
  obtain ⟨compiled, hcompiled, hnames⟩ :
      ∃ compiled, compile [fromTwo, ofNine, belowSeven] none .qualified = .ok compiled ∧
        CompiledCondition.namedParams compiled = ["id", "idLessThan", "idLessThan2"] :=
    ⟨_, rfl, by decide⟩
  obtain ⟨earlier, own, later, happend, hlength, -, -, hbare⟩ :=
    hnamed [fromTwo, ofNine] belowSeven [] compiled hcompiled
  obtain ⟨n, -, -, -, -, hfree⟩ := hnumbers ["idLessThan", "id"] "idLessThan"
  have hsingle : fromTwo.IsSingle := ⟨by decide, rfl⟩
  refine ⟨compiled, hcompiled, hnames, hnodup _ _ hcompiled,
    ⟨earlier, own, later, happend, hlength, fun hown => ?_⟩, n, hfree (by simp)⟩
  exact ((hbare ⟨by decide, rfl⟩).1 hown).1 fromTwo (by simp) (by decide) hsingle

end FilterSql

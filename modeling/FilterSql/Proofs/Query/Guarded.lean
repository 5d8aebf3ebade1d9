import FilterSql.Proofs.Database.Prepared
import FilterSql.Proofs.Filter.Conditions
import FilterSql.Proofs.Query.Narrowing
import FilterSql.Proofs.Sql.Tests

/-!
# FilterSql.Proofs.Query.Guarded

Which updates and deletes are bound to hit every row. A filter must not be empty, but its conditions
may still say nothing.

* `Condition.IsIdle`: the conditions that say nothing of a column.
* `Restricts`: a clause misses some row unless all conditions are idle.
* `Database.compileFilter_of_ok`: the conditions that a filter is compiled from.
* `Database.writes_restricted`: the clauses of updates and deletes restrict them so.
-/

namespace FilterSql

open Sql (Reader)

/-! ## Rows -/

variable {V : String → Type} [∀ column, LinearOrder (V column)]

/-- A row that a table can have, with NULL only in columns that accept it. -/
def Allowed (nullable : String → Bool) (row : ∀ column, Option (V column)) : Prop :=
  ∀ column, row column = none → nullable column = true

/-! ## Conditions -/

/-- A condition that is true of whatever the column may hold: one that excludes no member, or on a
column without NULL one that every value meets. -/
def Condition.IsIdle {W : Type} [LinearOrder W] (D : Sql.Domain W) (nullable : Bool)
    (c : Condition) : Prop :=
  c.operator = .ne ∧ c.value = .arr [] ∨
    nullable = false ∧ ∃ test, c.test none = .ok test ∧ ∀ v, test.passes D v = true

theorem Condition.isIdle_iff {W : Type} [LinearOrder W] {D : Sql.Domain W} {nullable : Bool}
    {c : Condition} {known : Option TableColumns} {test : Sql.Test} (h : c.test known = .ok test)
    (hknown : (known.bind fun t => t.acceptsNull? c.base) = some true → nullable = true) :
    c.IsIdle D nullable ↔ test.IsIdle D nullable := by
  rw [IsIdle, Sql.Test.IsIdle, test_nothing_iff h]
  obtain ⟨-, haccepts⟩ | ⟨hnone, -⟩ := test_of_ok h
  · simp [hknown haccepts]
  · simp [hnone]

/-- Where not every condition is idle, the clause is not true of some row. -/
def Restricts (nullable : String → Bool) (filter : Filter) (clause : Option Sql.Predicate) : Prop :=
  ∃ conditions, filter.conditions = .ok conditions ∧
    ∀ {V : String → Type} [∀ column, LinearOrder (V column)]
      (D : ∀ column, Sql.Domain (V column)),
      (∃ row : ∀ column, Option (V column), Allowed nullable row ∧
          ¬ Passes (fun a => a.valueIn D row) clause) ↔
        ∃ c ∈ conditions, ¬ c.IsIdle (D c.base) (nullable c.base)

theorem restricts_clauseOf {nullable : String → Bool} {filter : Filter}
    {conditions : List Condition} {known : Option TableColumns}
    {compiled : List CompiledCondition} (hconditions : filter.conditions = .ok conditions)
    (hcompile : compile conditions known .unqualified = .ok compiled)
    (hknown : ∀ column, (known.bind fun t => t.acceptsNull? column) = some true →
      nullable column = true) :
    Restricts nullable filter (clauseOf compiled []) := by
  refine ⟨conditions, hconditions, fun {V} _ D => ?_⟩
  have hpairs := forall₂_of_compileFrom hcompile
  have hidle {c : Condition} {a : Sql.Atom} (h : c.atom known .unqualified = .ok a) :
      a.column.name = c.base ∧
        (c.IsIdle (D c.base) (nullable c.base) ↔ a.test.IsIdle (D c.base) (nullable c.base)) := by
    obtain ⟨test, htest, rfl⟩ := Condition.atom_of_ok h
    exact ⟨ColumnRef.name_of .unqualified c.column, Condition.isIdle_iff htest (hknown c.base)⟩
  have hpasses (row : ∀ column, Option (V column)) :
      Passes (fun a => a.valueIn D row) (clauseOf compiled []) ↔
        ∀ c ∈ compiled, c.atom.valueIn D row = some true := by
    simp [narrows_clauseOf compiled [] _, Sql.decided_valueIn]
  constructor
  · rintro ⟨row, hrow, hfails⟩
    rw [hpasses] at hfails
    push Not at hfails
    obtain ⟨made, hmade, hvalue⟩ := hfails
    obtain ⟨c, hc, hcompiles⟩ := exists_mem_of_forall₂ hpairs.flip hmade
    obtain ⟨hname, hiff⟩ := hidle hcompiles.atom
    refine ⟨c, hc, fun h => hvalue ?_⟩
    rw [Sql.Atom.valueIn, hname]
    exact Sql.Test.eval_of_isIdle (hiff.1 h) (hrow c.base)
  · rintro ⟨c, hc, hc'⟩
    obtain ⟨made, hmade, hcompiles⟩ := exists_mem_of_forall₂ hpairs hc
    obtain ⟨hname, hiff⟩ := hidle hcompiles.atom
    rw [hiff] at hc'
    obtain ⟨v, hallowed, hvalue⟩ := Sql.Test.exists_not_true hc'
    -- The other columns may hold anything.
    let row : ∀ column, Option (V column) :=
      Function.update (fun column => some ((D column).of (.int 0))) c.base v
    have hrow : row c.base = v := Function.update_self ..
    refine ⟨row, fun column hnull => ?_, fun hpass => hvalue ?_⟩
    · by_cases heq : column = c.base
      · subst heq
        exact hallowed (hrow ▸ hnull)
      · simp [row, Function.update_of_ne heq] at hnull
    · have htrue := (hpasses row).1 hpass made hmade
      rwa [Sql.Atom.valueIn, hname, hrow] at htrue

/-! ## Updates and deletes -/

namespace Database

variable {σ : Type} {db : Database σ} {table : String} {filter : Filter} {s s' : Session σ}

/-- What a filter is compiled with: nothing, or the columns as they are looked up. -/
theorem compileFilter_of_ok {target : ColumnTarget} {compiled : List CompiledCondition}
    (h : db.compileFilter table filter target s = (.ok compiled, s')) :
    ∃ conditions known, filter.conditions = .ok conditions ∧
      compile conditions known target = .ok compiled ∧
        ∀ t ∈ known, ∃ after, db.columns table s = (.ok t, after) := by
  rw [compileFilter] at h
  cases hconditions : filter.conditions with
  | error e =>
    rw [hconditions] at h
    cases h
  | ok conditions =>
    rw [hconditions] at h
    simp only [Run.ofExcept_ok, Run.pure_bind] at h
    split at h
    case isTrue =>
      rcases hcolumns : db.columns table s with ⟨e | t, after⟩
      · rw [Run.bind_of_error hcolumns] at h
        cases h
      · rw [Run.bind_of_ok hcolumns, Run.ofExcept_apply] at h
        exact ⟨conditions, some t, rfl, congrArg Prod.fst h, by simp⟩
    case isFalse =>
      rw [Run.ofExcept_apply] at h
      exact ⟨conditions, none, rfl, congrArg Prod.fst h, by simp⟩

/-- NULL is accepted wherever the columns, as they are looked up, say so. -/
def Accepts (db : Database σ) (table : String) (s : Session σ) (nullable : String → Bool) : Prop :=
  ∀ known after, db.columns table s = (.ok known, after) →
    ∀ column, known.acceptsNull? column = some true → nullable column = true

theorem restricts_of_compileFilter {compiled : List CompiledCondition} {nullable : String → Bool}
    (h : db.compileFilter table filter .unqualified s = (.ok compiled, s'))
    (hnullable : db.Accepts table s nullable) :
    Restricts nullable filter (clauseOf compiled []) := by
  obtain ⟨conditions, known, hconditions, hcompile, hknown⟩ := compileFilter_of_ok h
  refine restricts_clauseOf hconditions hcompile fun column haccepts => ?_
  obtain ⟨t, ht, haccepts⟩ := Option.bind_eq_some_iff.1 haccepts
  obtain ⟨after, hcolumns⟩ := hknown t ht
  exact hnullable t after hcolumns column haccepts

theorem delete_of_ok (hempty : db.modifiers.isEmpty = true) {q : Query}
    (h : db.delete table filter s = (.ok q, s')) :
    ∃ compiled, db.compileFilter table filter .unqualified s = (.ok compiled, s') ∧
      q = .delete (.ofTable table compiled) := by
  unfold delete at h
  split at h
  case isTrue => cases h
  case isFalse =>
    obtain ⟨compiled, after, hcompile, h⟩ := Run.bind_eq_ok h
    rw [modify_of_isEmpty hempty] at h
    cases h
    exact ⟨compiled, hcompile, rfl⟩

/-- What an accepted update is made of: the conditions of the filter and the values to set. -/
theorem exists_of_update (hempty : db.modifiers.isEmpty = true) {values : Fields} {q : UpdateQuery}
    (h : db.update table values filter s = (.ok q, s')) :
    ∃ compiled set, db.compileFilter table filter .unqualified s = (.ok compiled, s') ∧
      assignments values = .ok set ∧
        q = { UpdateQuery.ofTable table compiled with assignments := set } := by
  unfold update at h
  split at h
  case isTrue => cases h
  case isFalse =>
    split at h
    case isTrue => cases h
    case isFalse =>
      obtain ⟨compiled, after, hcompile, h⟩ := Run.bind_eq_ok h
      obtain ⟨set, after', hset, h⟩ := Run.bind_eq_ok h
      rw [Run.ofExcept_apply] at hset
      obtain ⟨hvalues, rfl⟩ := Prod.mk.inj hset
      simp only [modify_of_isEmpty hempty, Run.pure_bind, Query.toUpdate, Run.ofExcept_ok] at h
      cases h
      exact ⟨compiled, set, hcompile, hvalues, rfl⟩

theorem update_of_ok (hempty : db.modifiers.isEmpty = true) {values : Fields} {q : UpdateQuery}
    (h : db.update table values filter s = (.ok q, s')) :
    ∃ compiled assignments, db.compileFilter table filter .unqualified s = (.ok compiled, s') ∧
      q = { UpdateQuery.ofTable table compiled with assignments } := by
  obtain ⟨compiled, set, hcompile, -, rfl⟩ := exists_of_update hempty h
  exact ⟨compiled, set, hcompile, rfl⟩

/-- The statements of accepted updates and deletes, read back: the clause is true of every row the
table can have only if all conditions of the filter are idle. -/
theorem writes_restricted (db : Database σ) (hempty : db.modifiers.isEmpty = true) (table : String)
    (filter : Filter) (s : Session σ) (nullable : String → Bool)
    (hnullable : db.Accepts table s nullable) :
    (∀ values q s', db.update table values filter s = (.ok q, s') →
      ∃ assignments clause, (Reader.update db.dialect).whole? (q.statement db.dialect) =
          some (table, assignments, clause) ∧ Restricts nullable filter clause) ∧
    ∀ q s', db.delete table filter s = (.ok q, s') →
      ∃ clause, (Reader.delete db.dialect).whole? (q.statement db.dialect) =
          some (table, clause) ∧ Restricts nullable filter clause := by
  constructor
  · intro values q s' h
    obtain ⟨compiled, assignments, hcompile, rfl⟩ := update_of_ok hempty h
    exact ⟨_, _, UpdateQuery.whole?_statement _ _, restricts_of_compileFilter hcompile hnullable⟩
  · intro q s' h
    obtain ⟨compiled, hcompile, rfl⟩ := delete_of_ok hempty h
    exact ⟨_, DeleteQuery.whole?_statement _ _, restricts_of_compileFilter hcompile hnullable⟩

/-! ### A table of notes -/

/-- Notes may be NULL, ids may not. -/
def notes : Database Unit where
  backend :=
    { dialect := .sqlite
      fetch _ := pure []
      execute _ := pure ⟨0, none⟩
      describe _ := pure [⟨"id", false⟩, ⟨"note", true⟩] }
  settings := ⟨1, 100, "id"⟩
  modifiers := .empty

def oneNote : Filter := [("id", .ofNat 1), ("note !=", .null)]

def integers : Sql.Domain ℤ where
  of
    | .int n => n
    | _ => 0
  like _ _ := false

/-- A row with another id is not deleted. -/
theorem writes_restricted_notes :
    ∃ q s' clause, notes.delete "items" oneNote (.start ()) = (.ok q, s') ∧
      (Reader.delete .sqlite).whole? (q.statement .sqlite) = some ("items", clause) ∧
        ∃ row : String → Option ℤ, Allowed (· == "note") row ∧
          ¬ Passes (fun a => a.valueIn (fun _ => integers) row) clause := by
  have hnullable : notes.Accepts "items" (.start ()) (· == "note") := by
    intro known after hcolumns column haccepts
    cases hcolumns
    simp only [TableColumns.acceptsNull?, TableColumns.get?, List.find?_cons,
      List.find?_nil] at haccepts
    split at haccepts
    · cases haccepts
    · split at haccepts
      case h_1 hname => exact BEq.symm hname
      case h_2 => cases haccepts
  obtain ⟨clause, hread, conditions, hconditions, hrestricts⟩ :=
    (writes_restricted notes rfl "items" oneNote (.start ()) (· == "note") hnullable).2 _ _ rfl
  refine ⟨_, _, clause, rfl, hread, (hrestricts fun _ => integers).2 ?_⟩
  have hfirst : oneNote.conditions =
      .ok [⟨"id", "id", .eq, .ofNat 1⟩, ⟨"note !=", "note", .ne, .null⟩] := rfl
  cases hfirst.symm.trans hconditions
  refine ⟨_, List.mem_cons_self, ?_⟩
  rintro (⟨hop, -⟩ | ⟨-, test, htest, hpasses⟩)
  · cases hop
  · cases htest
    exact absurd (hpasses 2) (by decide)

def exceptNone : Filter := [("id !=", .arr [])]

/-- The bounds are the wrong way round. -/
def outsideNone : Filter := [("id NOT BETWEEN", .arr [.ofNat 5, .ofNat 3])]

/-- Every note is deleted, and every note is renamed, whatever is in it; and every note with an id
is deleted. -/
theorem writes_hit_all :
    (∃ q s' clause, notes.delete "items" exceptNone (.start ()) = (.ok q, s') ∧
      (Reader.delete .sqlite).whole? (q.statement .sqlite) = some ("items", clause) ∧
        ∀ value : Sql.Atom → Option Bool, Passes value clause) ∧
    (∃ q s' assignments clause,
      notes.update "items" [("note", .str "pen")] exceptNone (.start ()) = (.ok q, s') ∧
        (Reader.update .sqlite).whole? (q.statement .sqlite) = some ("items", assignments, clause) ∧
          ∀ value : Sql.Atom → Option Bool, Passes value clause) ∧
    ∃ q s' clause, notes.delete "items" outsideNone (.start ()) = (.ok q, s') ∧
      (Reader.delete .sqlite).whole? (q.statement .sqlite) = some ("items", clause) ∧
        ∀ row : String → Option ℤ, Allowed (· == "note") row →
          Passes (fun a => a.valueIn (fun _ => integers) row) clause := by
  let nothing : List CompiledCondition :=
    [⟨"id", .ne, ⟨⟨none, "id"⟩, .member true []⟩, [⟨"id", []⟩]⟩]
  have hpasses (value : Sql.Atom → Option Bool) : Passes value (clauseOf nothing []) :=
    (narrows_clauseOf nothing [] value).2 ⟨by simp [nothing, Sql.decided], nofun⟩
  let outside : List CompiledCondition :=
    [⟨"id", .notBetween, ⟨⟨none, "id"⟩, .between true (.int 5) (.int 3)⟩,
      [⟨"idGreaterThan", [.int 5]⟩, ⟨"idLessThan", [.int 3]⟩]⟩]
  refine ⟨⟨.delete (.ofTable "items" nothing), _, _, rfl,
      DeleteQuery.whole?_statement _ _, hpasses⟩,
    ⟨{ UpdateQuery.ofTable "items" nothing with assignments := [⟨"note", some (.text "pen")⟩] },
      _, _, _, rfl, UpdateQuery.whole?_statement _ _, hpasses⟩,
    .delete (.ofTable "items" outside), _, _, rfl, DeleteQuery.whole?_statement _ _, ?_⟩
  intro row hrow
  refine (narrows_clauseOf outside [] _).2 ⟨fun c hc => ?_, nofun⟩
  cases List.mem_singleton.1 hc
  rw [Sql.decided_valueIn]
  cases hid : row "id" with
  | none => exact absurd (hrow "id" hid) (by decide)
  | some v =>
    have hout : ¬ ((5 : ℤ) ≤ v ∧ v ≤ 3) := by omega
    have hvalue : (Sql.Test.between true (.int 5) (.int 3)).passes integers v = true := by
      show (decide ((5 : ℤ) ≤ v) && decide (v ≤ 3)) != true
      rw [← Bool.decide_and, decide_eq_false hout]
      rfl
    rw [Sql.Atom.valueIn, hid, Sql.Test.eval, hvalue]

end Database
end FilterSql

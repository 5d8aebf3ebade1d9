import FilterSql.Proofs.Filter.Keys
import FilterSql.Proofs.Query.Guarded

/-!
# FilterSql.Proofs.Query.Assigned

What an update sets. A key names a column whatever blanks are around it and whatever alias is in
front, so that two keys of one map can name the same column.

* `NamesColumn`, `namesColumn_iff`: the column that a key names.
* `SetBy`: the assignment that a key and its value stand for.
* `Database.update_sets_iff`: what the statement of an update sets, and when it sets every column
  once.
-/

namespace FilterSql

open Sql (Reader)
open Database (assignment assignments)
open Text (Padded Trimmed)

/-! ## Columns -/

/-- The text of a key between the blanks around it, without the alias in front of its first
point. -/
inductive NamesColumn (key column : String) : Prop where
  | plain (hkey : Padded key.toList column.toList) (hcolumn : Trimmed column.toList)
      (hpoint : '.' ∉ column.toList)
  | aliased {front : List Char} (hkey : Padded key.toList (front ++ '.' :: column.toList))
      (hcolumn : Trimmed (front ++ '.' :: column.toList)) (hpoint : '.' ∉ front)

variable {key column : String} {value : Json} {a : Assignment}

theorem namesColumn_iff : NamesColumn key column ↔ baseColumn (Text.trimmed key) = column := by
  constructor
  · rintro (⟨hkey, hcolumn, hpoint⟩ | ⟨hkey, hcolumn, hpoint⟩)
    · rw [Text.trimmed_eq_iff.2 ⟨hcolumn, hkey⟩, baseColumn_of_not_mem hpoint]
    · rw [Text.trimmed, Text.trim_eq_iff.2 ⟨hcolumn, hkey⟩, baseColumn_aliased hpoint]
  · rintro rfl
    obtain ⟨htrimmed, hkey⟩ := Text.trimmed_eq_iff.1 (Eq.refl (Text.trimmed key))
    rw [baseColumn]
    cases hcut : Text.cutFirst? (· == '.') (Text.trimmed key).toList with
    | none =>
      refine .plain hkey htrimmed fun hmem => ?_
      exact absurd (Text.cutFirst?_eq_none.1 hcut '.' hmem) (by decide)
    | some parts =>
      obtain ⟨front, rest⟩ := parts
      obtain ⟨c, hc, htrim, hfront⟩ := Text.cutFirst?_eq_some hcut
      rw [htrim, eq_of_beq hc] at hkey htrimmed
      refine .aliased (by simpa using hkey) (by simpa using htrimmed) fun hmem => ?_
      exact absurd (hfront '.' hmem) (by decide)

theorem Operator.trimmed_of_splitKey (h : splitKey key = (column, .eq)) :
    Text.trimmed key = column := by
  cases hparts : splitChars key.toList with
  | mk front op =>
    rw [splitKey, hparts] at h
    cases h
    obtain ⟨-, gap, s, -, htrim, ⟨-, rfl, rfl⟩ | hs | ⟨-, -, hs | ⟨hop, -⟩⟩⟩ :=
      splitChars_cases hparts
    · simp [Text.trimmed, htrim]
    · cases hs
    · cases hs
    · cases hop

/-! ## Assignments -/

/-- A key and its value, as they are set. -/
structure SetBy (entry : String × Json) (a : Assignment) : Prop where
  column : NamesColumn entry.1 a.column
  value : entry.2.WrittenAs a.value

theorem setBy_of_assignment (h : assignment key value = .ok a) :
    SetBy (key, value) (UpdateQuery.written a) := by
  rw [assignment] at h
  split at h
  case h_2 => cases h
  case h_1 column hkey =>
    split at h
    case isTrue => cases h
    case isFalse =>
      cases hvalue : Bound.ofCell column value with
      | error e => simp [hvalue] at h
      | ok cell =>
        simp only [hvalue, Except.ok.injEq] at h
        subst h
        exact ⟨namesColumn_iff.2 (congrArg baseColumn (Operator.trimmed_of_splitKey hkey)),
          Bound.writtenAs_of_ofCell hvalue⟩

theorem forall₂_of_assignments {values : Fields} {set : List Assignment}
    (h : assignments values = .ok set) :
    List.Forall₂ SetBy values (set.map UpdateQuery.written) := by
  induction values generalizing set with
  | nil => cases h; exact .nil
  | cons entry rest ih =>
    rw [assignments] at h
    cases hentry : assignment entry.1 entry.2 with
    | error e => simp [hentry] at h
    | ok a =>
      cases hrest : assignments rest with
      | error e => simp [hentry, hrest] at h
      | ok more =>
        simp only [hentry, hrest, Except.ok.injEq] at h
        subst h
        exact .cons (setBy_of_assignment hentry) (ih hrest)

theorem columns_of_forall₂ {values : Fields} {set : List Assignment}
    (h : List.Forall₂ SetBy values set) :
    set.map Assignment.column =
      (values.map Prod.fst).map fun key => baseColumn (Text.trimmed key) := by
  induction h with
  | nil => rfl
  | cons hentry _ ih =>
    rw [List.map_cons, List.map_cons, List.map_cons, ih, namesColumn_iff.1 hentry.column]

/-- The columns are set once exactly when no two keys name the same one. -/
theorem nodup_columns_iff {values : Fields} {set : List Assignment}
    (hkeys : (values.map Prod.fst).Nodup) (h : List.Forall₂ SetBy values set) :
    (set.map Assignment.column).Nodup ↔
      ∀ key ∈ values.map Prod.fst, ∀ other ∈ values.map Prod.fst, ∀ column,
        NamesColumn key column → NamesColumn other column → key = other := by
  rw [columns_of_forall₂ h, List.nodup_map_iff_inj_on hkeys]
  simp only [namesColumn_iff]
  constructor
  · rintro hinj key hkey other hother column rfl heq
    exact hinj key hkey other hother heq.symm
  · intro hnames key hkey other hother heq
    exact hnames key hkey other hother _ rfl heq.symm

namespace Database

variable {σ : Type}

/-- The statement of an accepted update sets one column for each key, in their order, and no column
twice exactly when no two keys name the same one. -/
theorem update_sets_iff (db : Database σ) (hempty : db.modifiers.isEmpty = true) (table : String)
    (values : Fields) (filter : Filter) (s s' : Session σ) (q : UpdateQuery)
    (h : db.update table values filter s = (.ok q, s')) :
    ∃ set clause, (Reader.update db.dialect).whole? (q.statement db.dialect) =
        some (table, set, clause) ∧
      List.Forall₂ SetBy values set ∧
      ((values.map Prod.fst).Nodup → ((set.map Assignment.column).Nodup ↔
        ∀ key ∈ values.map Prod.fst, ∀ other ∈ values.map Prod.fst, ∀ column,
          NamesColumn key column → NamesColumn other column → key = other)) := by
  obtain ⟨compiled, made, -, hset, rfl⟩ := exists_of_update hempty h
  have hsets := forall₂_of_assignments hset
  exact ⟨_, _, UpdateQuery.whole?_statement _ _, hsets, fun hkeys => nodup_columns_iff hkeys hsets⟩

/-! ### A table of notes -/

def firstNote : Filter := [("id", .ofNat 1)]

/-- An alias and blanks are not written. -/
theorem update_sets_iff_notes :
    ∃ q s' set clause,
      notes.update "items" [(" note", .str "pen"), ("main.rank", .null)] firstNote (.start ()) =
          (.ok q, s') ∧
        (Reader.update .sqlite).whole? (q.statement .sqlite) = some ("items", set, clause) ∧
          set.map Assignment.column = ["note", "rank"] ∧
            ∀ column, NamesColumn " note" column → ¬ NamesColumn "main.rank" column := by
  obtain ⟨set, clause, hread, hsets, hnodup⟩ := update_sets_iff notes rfl "items"
    [(" note", .str "pen"), ("main.rank", .null)] firstNote (.start ()) _ _ rfl
  have hcolumns : set.map Assignment.column = ["note", "rank"] :=
    (columns_of_forall₂ hsets).trans (by decide +kernel)
  refine ⟨_, _, set, clause, rfl, hread, hcolumns, fun column hfirst hsecond => ?_⟩
  have heq := (hnodup (by decide)).1 (hcolumns ▸ by decide) " note" (by simp) "main.rank" (by simp)
    column hfirst hsecond
  exact absurd heq (by decide)

/-- A column that is named with an alias and without one is set twice. -/
theorem update_sets_twice :
    ∃ q s' set clause,
      notes.update "items" [("note", .ofNat 1), ("main.note", .ofNat 2)] firstNote (.start ()) =
          (.ok q, s') ∧
        (Reader.update .sqlite).whole? (q.statement .sqlite) = some ("items", set, clause) ∧
          ¬ (set.map Assignment.column).Nodup := by
  let conditions : List CompiledCondition :=
    [⟨"id", .eq, ⟨⟨none, "id"⟩, .compare .eq (.int 1)⟩, [⟨"id", [.int 1]⟩]⟩]
  let assignments : List Assignment := [⟨"note", some (.int 1)⟩, ⟨"main.note", some (.int 2)⟩]
  refine ⟨{ UpdateQuery.ofTable "items" conditions with assignments }, _, _, _, rfl,
    UpdateQuery.whole?_statement _ _, ?_⟩
  decide +kernel

end Database
end FilterSql

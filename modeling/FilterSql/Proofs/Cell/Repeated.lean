import FilterSql.Cell.Postgres
import FilterSql.Cell.Sqlite
import FilterSql.Proofs.Json.Fields

/-!
# FilterSql.Proofs.Cell.Repeated

Rows in which names of columns are repeated. SQLite reads every column for itself, and the last one
of a name counts. PostgreSQL has the types by position but the values by name, so that every column
of a name has to be able to take the value of the last one.

* `Postgres.IsLast`, `Postgres.ReadsLast`: the column that a name finds, and the columns that can
  take its value.
* `Postgres.cases_decodeFrom`: what the reading of a row comes to.
* `Postgres.decodeRow_takesLast_iff`: the rows that are read and what is read, for both.
-/

namespace FilterSql
namespace Postgres

variable {entries cells : List (ResultColumn × Cell)} {entry source : ResultColumn × Cell}
  {column target : ResultColumn} {cell : Cell} {name : String} {v : Json} {e : Error}

/-! ## Names -/

/-- No column behind it has the name. -/
def IsLast (entries : List (ResultColumn × Cell)) (name : String)
    (source : ResultColumn × Cell) : Prop :=
  ∃ before after, entries = before ++ source :: after ∧ source.1.name = name ∧
    ∀ later ∈ after, later.1.name ≠ name

theorem lookup?_eq_some_iff : lookup? entries name = some source ↔ IsLast entries name source := by
  rw [lookup?, List.find?_eq_some_iff_append]
  constructor
  · rintro ⟨hname, before, after, hentries, hbefore⟩
    refine ⟨after.reverse, before.reverse, ?_, eq_of_beq hname, ?_⟩
    · rw [← List.reverse_reverse entries, hentries]
      simp
    · intro later hlater
      simpa using hbefore later (by simpa using hlater)
  · rintro ⟨before, after, rfl, rfl, hafter⟩
    refine ⟨by simp, after.reverse, before.reverse, by simp, ?_⟩
    intro later hlater
    simpa using hafter later (by simpa using hlater)

theorem exists_isLast (h : entry ∈ entries) : ∃ source, IsLast entries entry.1.name source := by
  have hfound : (lookup? entries entry.1.name).isSome = true := by
    rw [lookup?, List.find?_isSome]
    exact ⟨entry, List.mem_reverse.2 h, by simp⟩
  obtain ⟨source, hsource⟩ := Option.isSome_iff_exists.1 hfound
  exact ⟨source, lookup?_eq_some_iff.1 hsource⟩

theorem IsLast.mem (h : IsLast entries name source) : source ∈ entries := by
  obtain ⟨before, after, rfl, -, -⟩ := h
  simp

theorem lastValue?_map (value : ResultColumn × Cell → Json) (h : IsLast entries name source) :
    Fields.lastValue? (entries.map fun entry => (entry.1.name, value entry)) name =
      some (value source) := by
  rw [Fields.lastValue?, List.filter_map, List.getLast?_map, List.getLast?_filter]
  have hfound : entries.reverse.find? (fun entry => entry.1.name == name) = some source :=
    lookup?_eq_some_iff.2 h
  simp only [Function.comp_def, ← beq_eq_decide, hfound]
  rfl

/-! ## Columns -/

/-- The column can take the value of the last column of its name. -/
def ReadsLast (entries : List (ResultColumn × Cell)) (column : ResultColumn) : Prop :=
  ∃ source, IsLast entries column.name source ∧
    (source.2 = .null ∨ agrees column.type source.1.type = true)

theorem decodeColumn_null (h : lookup? entries target.name = some (column, .null)) :
    decodeColumn entries target = .ok .null := by
  rw [decodeColumn, h]

theorem decodeColumn_of_ne_null (h : lookup? entries target.name = some (column, cell))
    (hcell : cell ≠ .null) :
    decodeColumn entries target =
      if !agrees target.type column.type then .error (failure target)
      else if cell.isOutOfRange column.type then .error (.backend .outOfRange)
      else
        match cell.toJson? column.type with
        | some v => .ok v
        | none => .error (failure target) := by
  rw [decodeColumn, h]
  cases cell with
  | null => exact absurd rfl hcell
  | _ => rfl

/-- A column that can be read without the others has a value of its own type. -/
theorem decodeColumn_alone (h : decodeRow [entry.1] [entry.2] = .ok [(entry.1.name, v)]) :
    decodeColumn [entry] entry.1 = .ok v := by
  rw [decodeRow, List.zip_cons_cons, List.zip_nil_right, decodeFrom] at h
  split at h
  case h_1 => cases h
  case h_2 w hw =>
    cases h
    exact hw

theorem lookup?_alone (entry : ResultColumn × Cell) :
    lookup? [entry] entry.1.name = some entry := by
  simp [lookup?]

/-- What a column finds is read as it is without the others, if it can be read at all. -/
theorem decodeColumn_of_isLast (hlast : IsLast entries target.name source)
    (halone : decodeRow [source.1] [source.2] = .ok [(source.1.name, v)]) :
    decodeColumn entries target =
      if source.2 = .null ∨ agrees target.type source.1.type = true then .ok v
      else .error (failure target) := by
  obtain ⟨column, cell⟩ := source
  have hfound := lookup?_eq_some_iff.2 hlast
  have hown := decodeColumn_alone halone
  have hself := lookup?_alone (column, cell)
  by_cases hcell : cell = .null
  · subst hcell
    rw [decodeColumn_null hself] at hown
    cases hown
    rw [decodeColumn_null hfound, if_pos (.inl rfl)]
  · rw [decodeColumn_of_ne_null hself hcell] at hown
    rw [decodeColumn_of_ne_null hfound hcell]
    -- Only the comparison of the types depends on the column that asks.
    split at hown
    case isTrue => cases hown
    case isFalse =>
      split at hown
      case isTrue => cases hown
      case isFalse hrange =>
        split at hown
        case h_2 => cases hown
        case h_1 =>
          cases hown
          cases agrees target.type column.type <;> simp [hcell, hrange]

/-! ## Rows -/

theorem decodeFrom_of_ok {value : String → Json} {columns : List ResultColumn} {row : Row}
    (h : ∀ column ∈ columns, decodeColumn cells column = .ok (value column.name)) :
    decodeFrom cells row columns =
      .ok (Fields.insertAll row (columns.map fun column => (column.name, value column.name))) := by
  induction columns generalizing row with
  | nil => rfl
  | cons column rest ih =>
    obtain ⟨hcolumn, hrest⟩ := List.forall_mem_cons.1 h
    rw [decodeFrom, hcolumn]
    exact ih hrest

/-- Either all columns are read, or the first one that is not gives the error. -/
theorem cases_decodeFrom (cells : List (ResultColumn × Cell)) (columns : List ResultColumn)
    (row : Row) :
    (∀ column ∈ columns, ∃ v, decodeColumn cells column = .ok v) ∨
    ∃ before column after e, columns = before ++ column :: after ∧
      (∀ earlier ∈ before, ∃ v, decodeColumn cells earlier = .ok v) ∧
        decodeColumn cells column = .error e ∧ decodeFrom cells row columns = .error e := by
  induction columns generalizing row with
  | nil => exact .inl nofun
  | cons column rest ih =>
    cases hcolumn : decodeColumn cells column with
    | error e =>
      refine .inr ⟨[], column, rest, e, rfl, nofun, hcolumn, ?_⟩
      rw [decodeFrom, hcolumn]
    | ok v =>
      have hfrom : decodeFrom cells row (column :: rest) =
          decodeFrom cells (Fields.insert row column.name v) rest := by rw [decodeFrom, hcolumn]
      obtain hall | ⟨before, failing, after, e, hrest, hbefore, hfailing, heq⟩ :=
        ih (Fields.insert row column.name v)
      · exact .inl (List.forall_mem_cons.2 ⟨⟨v, hcolumn⟩, hall⟩)
      · refine .inr ⟨column :: before, failing, after, e, by rw [hrest]; rfl, ?_, hfailing,
          hfrom.trans heq⟩
        exact List.forall_mem_cons.2 ⟨⟨v, hcolumn⟩, hbefore⟩

/-- The columns with what each of them is read as without the others. -/
def ownValues (value : ResultColumn × Cell → Json) (entries : List (ResultColumn × Cell)) :
    List (String × Json) := entries.map fun entry => (entry.1.name, value entry)

theorem decodeRow_map (entries : List (ResultColumn × Cell)) :
    decodeRow (entries.map Prod.fst) (entries.map Prod.snd) =
      decodeFrom entries [] (entries.map Prod.fst) := by
  rw [decodeRow, List.zip_map']
  simp

section Alone

variable {value : ResultColumn × Cell → Json}
  (halone : ∀ entry ∈ entries, decodeRow [entry.1] [entry.2] = .ok [(entry.1.name, value entry)])

include halone

theorem decodeColumn_cases (hmem : column ∈ entries.map Prod.fst) :
    (ReadsLast entries column ∧ ∃ v, decodeColumn entries column = .ok v ∧
      Fields.lastValue? (ownValues value entries) column.name = some v) ∨
    (¬ ReadsLast entries column ∧ decodeColumn entries column = .error (failure column)) := by
  obtain ⟨entry, hentry, rfl⟩ := List.mem_map.1 hmem
  obtain ⟨source, hlast⟩ := exists_isLast hentry
  have hread := decodeColumn_of_isLast hlast (halone source hlast.mem)
  split at hread
  case isTrue hagrees =>
    exact .inl ⟨⟨source, hlast, hagrees⟩, value source, hread, lastValue?_map value hlast⟩
  case isFalse hagrees =>
    refine .inr ⟨?_, hread⟩
    rintro ⟨other, hother, hagrees'⟩
    cases (lookup?_eq_some_iff.2 hlast).symm.trans (lookup?_eq_some_iff.2 hother)
    exact hagrees hagrees'

theorem exists_decodeRow (h : ∀ column ∈ entries.map Prod.fst, ReadsLast entries column) :
    ∃ row, decodeRow (entries.map Prod.fst) (entries.map Prod.snd) = .ok row ∧
      Fields.TakesLast (ownValues value entries) row := by
  -- What is inserted under a name is the same for every column of the name.
  let last (name : String) : Json := (Fields.lastValue? (ownValues value entries) name).getD .null
  have hlast : ∀ column ∈ entries.map Prod.fst,
      decodeColumn entries column = .ok (last column.name) ∧
        Fields.lastValue? (ownValues value entries) column.name = some (last column.name) := by
    intro column hcolumn
    obtain ⟨-, v, hread, hv⟩ | ⟨hnot, -⟩ := decodeColumn_cases halone hcolumn
    · simp only [last, hv, Option.getD_some]
      exact ⟨hread, trivial⟩
    · exact absurd (h column hcolumn) hnot
  refine ⟨_, (decodeRow_map entries).trans (decodeFrom_of_ok fun c hc => (hlast c hc).1), ?_, ?_⟩
  · rw [← Fields.ofList_eq_insertAll, Fields.keys_ofList]
    simp [ownValues, Function.comp_def]
  · intro field hfield
    obtain ⟨column, hcolumn, rfl⟩ := List.mem_map.1 (Fields.mem_ofList hfield)
    exact (hlast column hcolumn).2

theorem exists_decodeColumn_iff (hmem : column ∈ entries.map Prod.fst) :
    (∃ v, decodeColumn entries column = .ok v) ↔ ReadsLast entries column := by
  obtain ⟨hreads, v, hread, -⟩ | ⟨hnot, herror⟩ := decodeColumn_cases halone hmem
  · exact iff_of_true ⟨v, hread⟩ hreads
  · refine iff_of_false ?_ hnot
    rintro ⟨v, hread⟩
    cases herror.symm.trans hread

theorem readsLast_of_decodeRow {row : Row}
    (h : decodeRow (entries.map Prod.fst) (entries.map Prod.snd) = .ok row) :
    ∀ column ∈ entries.map Prod.fst, ReadsLast entries column := by
  intro column hcolumn
  obtain hall | ⟨-, -, -, e, -, -, -, heq⟩ := cases_decodeFrom entries (entries.map Prod.fst) []
  · exact (exists_decodeColumn_iff halone hcolumn).1 (hall column hcolumn)
  · rw [decodeRow_map] at h
    cases heq.symm.trans h

theorem exists_of_decodeRow_eq_error
    (h : decodeRow (entries.map Prod.fst) (entries.map Prod.snd) = .error e) :
    ∃ before column after, entries.map Prod.fst = before ++ column :: after ∧
      (∀ earlier ∈ before, ReadsLast entries earlier) ∧ ¬ ReadsLast entries column ∧
        e = failure column := by
  obtain hall | ⟨before, column, after, e', hcolumns, hbefore, hread, heq⟩ :=
    cases_decodeFrom entries (entries.map Prod.fst) []
  · obtain ⟨row, hrow, -⟩ := exists_decodeRow halone fun column hcolumn =>
      (exists_decodeColumn_iff halone hcolumn).1 (hall column hcolumn)
    cases hrow.symm.trans h
  · rw [decodeRow_map] at h
    cases heq.symm.trans h
    refine ⟨before, column, after, hcolumns, fun earlier hearlier => ?_, ?_⟩
    · have hmem : earlier ∈ entries.map Prod.fst := by simp [hcolumns, hearlier]
      exact (exists_decodeColumn_iff halone hmem).1 (hbefore earlier hearlier)
    · have hmem : column ∈ entries.map Prod.fst := by simp [hcolumns]
      obtain ⟨-, v, hv, -⟩ | ⟨hnot, herror⟩ := decodeColumn_cases halone hmem
      · cases hv.symm.trans hread
      · cases herror.symm.trans hread
        exact ⟨hnot, rfl⟩

end Alone

/-- Of columns that can each be read alone, PostgreSQL reads a row if every column can take the
value of the last one of its name, and fails at the first column that cannot. What is read, and what
SQLite reads in any case, is the last value of each name where the name first comes. -/
theorem decodeRow_takesLast_iff (entries : List (ResultColumn × Cell))
    (value : ResultColumn × Cell → Json)
    (halone : ∀ entry ∈ entries,
      decodeRow [entry.1] [entry.2] = .ok [(entry.1.name, value entry)]) :
    ((∃ row, decodeRow (entries.map Prod.fst) (entries.map Prod.snd) = .ok row) ↔
      ∀ column ∈ entries.map Prod.fst, ReadsLast entries column) ∧
    (∀ row, decodeRow (entries.map Prod.fst) (entries.map Prod.snd) = .ok row →
      Fields.TakesLast (ownValues value entries) row) ∧
    (∀ e, decodeRow (entries.map Prod.fst) (entries.map Prod.snd) = .error e →
      ∃ before column after, entries.map Prod.fst = before ++ column :: after ∧
        (∀ earlier ∈ before, ReadsLast entries earlier) ∧ ¬ ReadsLast entries column ∧
          e = failure column) ∧
    ∀ stored : List ((String × Sqlite.Declaration) × Sqlite.Cell),
      Fields.TakesLast (stored.map fun entry => (entry.1.1, entry.2.toJson entry.1.2))
        (Sqlite.decodeRow (stored.map Prod.fst) (stored.map Prod.snd)) := by
  refine ⟨⟨?_, ?_⟩, ?_, fun e => exists_of_decodeRow_eq_error halone, fun stored => ?_⟩
  · rintro ⟨row, h⟩
    exact readsLast_of_decodeRow halone h
  · intro h
    obtain ⟨row, hrow, -⟩ := exists_decodeRow halone h
    exact ⟨row, hrow⟩
  · intro row h
    obtain ⟨row', hrow, htakes⟩ := exists_decodeRow halone (readsLast_of_decodeRow halone h)
    cases h.symm.trans hrow
    exact htakes
  · rw [Sqlite.decodeRow, List.zip_map']
    simpa using Fields.takesLast_ofList _

/-- The name comes twice with one type, and a name of its own stands in between. -/
theorem decodeRow_takesLast_iff_integers :
    decodeRow [⟨"a", .int4⟩, ⟨"b", .text⟩, ⟨"a", .int4⟩] [.int 1, .text "y", .int 2] =
        .ok [("a", .ofInt 2), ("b", .str "y")] ∧
      Fields.TakesLast [("a", .ofInt 1), ("b", .str "y"), ("a", .ofInt 2)]
        [("a", .ofInt 2), ("b", .str "y")] := by
  let entries : List (ResultColumn × Cell) :=
    [(⟨"a", .int4⟩, .int 1), (⟨"b", .text⟩, .text "y"), (⟨"a", .int4⟩, .int 2)]
  have halone : ∀ entry ∈ entries, decodeRow [entry.1] [entry.2] =
      .ok [(entry.1.name, (entry.2.toJson? entry.1.type).getD .null)] := by
    simp only [entries, List.forall_mem_cons]
    exact ⟨rfl, rfl, rfl, nofun⟩
  obtain ⟨-, htakes, -⟩ := decodeRow_takesLast_iff entries _ halone
  exact ⟨rfl, htakes _ rfl⟩

/-- Each of the columns can be read alone, but the first one cannot take the text of the second. -/
theorem decodeRow_clash :
    decodeRow [⟨"a", .int4⟩] [.int 1] = .ok [("a", .ofInt 1)] ∧
      decodeRow [⟨"a", .text⟩] [.text "x"] = .ok [("a", .str "x")] ∧
      decodeRow [⟨"a", .int4⟩, ⟨"a", .text⟩] [.int 1, .text "x"] =
        .error (.backend .undecodable) ∧
      Fields.TakesLast [("a", .ofInt 1), ("a", .str "x")] [("a", .str "x")] :=
  ⟨rfl, rfl, rfl, Fields.takesLast_ofList _⟩

end Postgres
end FilterSql

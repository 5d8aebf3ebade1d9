import FilterSql.Error
import FilterSql.Schema.Cache
import Mathlib.Data.List.Induction

/-!
# FilterSql.Proofs.Schema.History

What is known of the tables after a history of answers and of requests to forget them.

* `SchemaEvent`: an answer of a database, or a request to forget one table or all of them.
* `SchemaCache.learn`: a cache after some events.
* `LastTold`: the columns that a history tells last and that it does not forget.
* `SchemaCache.get?_learn`, `SchemaCache.get?_learn_empty`: those are the entries.
-/

namespace FilterSql

inductive SchemaEvent where
  | described (table : String) (answer : Except Error (List Column))
  | invalidated (table : String)
  | cleared

namespace SchemaEvent

/-- What it tells. A table without columns does not exist, so nothing is told of it. -/
def told? : SchemaEvent → Option TableColumns
  | .described table (.ok (column :: rest)) => some ⟨table, column :: rest⟩
  | _ => none

/-- Whether anything is told of a table or forgotten. -/
def Concerns (e : SchemaEvent) (table : String) : Prop :=
  e = .invalidated table ∨ e = .cleared ∨ ∃ columns, e.told? = some ⟨table, columns⟩

theorem told?_eq_some_iff {e : SchemaEvent} {known : TableColumns} :
    e.told? = some known ↔
      e = .described known.table (.ok known.columns) ∧ known.columns ≠ [] := by
  obtain ⟨table, columns⟩ := known
  constructor
  · intro h
    rcases e with ⟨table', e' | ⟨- | ⟨column, rest⟩⟩⟩ | table' | - <;> cases h
    exact ⟨rfl, nofun⟩
  · rintro ⟨rfl, hne⟩
    cases columns with
    | nil => exact absurd rfl hne
    | cons column rest => rfl

theorem Concerns.table_eq {e : SchemaEvent} {table : String} {known : TableColumns}
    (h : e.Concerns table) (htold : e.told? = some known) : known.table = table := by
  obtain rfl | rfl | ⟨columns, hcolumns⟩ := h
  · cases htold
  · cases htold
  · rw [hcolumns] at htold
    cases htold
    rfl

end SchemaEvent

namespace SchemaCache

def heed (cache : SchemaCache) : SchemaEvent → SchemaCache
  | .described table (.ok (column :: rest)) => cache.insert ⟨table, column :: rest⟩
  | .described _ _ => cache
  | .invalidated table => cache.erase table
  | .cleared => .empty

def learn (cache : SchemaCache) (events : List SchemaEvent) : SchemaCache :=
  events.foldl heed cache

@[simp] theorem learn_nil (cache : SchemaCache) : cache.learn [] = cache := rfl

theorem learn_append (cache : SchemaCache) (events more : List SchemaEvent) :
    cache.learn (events ++ more) = (cache.learn events).learn more :=
  List.foldl_append

theorem learn_concat (cache : SchemaCache) (events : List SchemaEvent) (e : SchemaEvent) :
    cache.learn (events ++ [e]) = (cache.learn events).heed e := by
  rw [learn, learn, List.foldl_append, List.foldl_cons, List.foldl_nil]

/-! ## Entries -/

variable {cache : SchemaCache} {table : String} {known : TableColumns}

theorem get?_empty (table : String) : empty.get? table = none := rfl

theorem get?_erase (cache : SchemaCache) (table table' : String) :
    (cache.erase table').get? table = if table' = table then none else cache.get? table := by
  rw [erase, get?, List.find?_filter, get?]
  split
  case isTrue h =>
    subst h
    exact List.find?_eq_none.2 fun t _ => by simp
  case isFalse h =>
    congr 1
    funext t
    by_cases ht : t.table = table <;> simp [ht, Ne.symm h]

theorem get?_insert (cache : SchemaCache) (known : TableColumns) (table : String) :
    (cache.insert known).get? table =
      if known.table = table then some known else cache.get? table := by
  have hrest : (cache.insert known).get? table =
      if known.table == table then some known else (cache.erase known.table).get? table := by
    simp only [insert, get?, List.find?_cons]
    cases known.table == table <;> rfl
  rw [hrest, get?_erase]
  simp only [beq_iff_eq]
  split <;> rfl

/-- An entry is what the event tells of the table if it concerns the table at all. -/
theorem get?_heed_of_concerns {e : SchemaEvent} (cache : SchemaCache) (h : e.Concerns table) :
    (cache.heed e).get? table = e.told? := by
  obtain rfl | rfl | ⟨columns, htold⟩ := h
  · simp [heed, get?_erase, SchemaEvent.told?]
  · rfl
  · obtain ⟨rfl, hne⟩ := SchemaEvent.told?_eq_some_iff.1 htold
    obtain ⟨column, rest, rfl⟩ := List.exists_cons_of_ne_nil hne
    simp [heed, get?_insert, SchemaEvent.told?]

theorem get?_heed_of_not_concerns {e : SchemaEvent} (cache : SchemaCache)
    (h : ¬ e.Concerns table) : (cache.heed e).get? table = cache.get? table := by
  rcases e with ⟨table', e' | ⟨- | ⟨column, rest⟩⟩⟩ | table' | -
  · rfl
  · rfl
  · have hne : table' ≠ table := fun heq => h (.inr (.inr ⟨column :: rest, by rw [← heq]; rfl⟩))
    rw [heed, get?_insert, if_neg hne]
  · have hne : table' ≠ table := fun heq => h (.inl (by rw [heq]))
    rw [heed, get?_erase, if_neg hne]
  · exact absurd (.inr (.inl rfl)) h

end SchemaCache

/-! ## Histories -/

/-- The history tells these columns, and nothing later concerns their table. -/
def LastTold (history : List SchemaEvent) (known : TableColumns) : Prop :=
  ∃ before after, history = before ++ .described known.table (.ok known.columns) :: after ∧
    known.columns ≠ [] ∧ ∀ e ∈ after, ¬ e.Concerns known.table

theorem not_lastTold_nil (known : TableColumns) : ¬ LastTold [] known := by
  rintro ⟨before, after, h, -, -⟩
  simp at h

/-- The last event decides if it concerns the table. -/
theorem lastTold_concat {history : List SchemaEvent} {e : SchemaEvent} {known : TableColumns} :
    LastTold (history ++ [e]) known ↔
      e.told? = some known ∨ ¬ e.Concerns known.table ∧ LastTold history known := by
  constructor
  · rintro ⟨before, after, h, hne, hafter⟩
    obtain rfl | ⟨front, last, rfl⟩ := List.eq_nil_or_concat after
    · obtain ⟨-, he⟩ := List.append_inj' h rfl
      cases he
      exact .inl (SchemaEvent.told?_eq_some_iff.2 ⟨rfl, hne⟩)
    · rw [List.concat_eq_append, ← List.cons_append, ← List.append_assoc] at h
      obtain ⟨rfl, he⟩ := List.append_inj' h rfl
      cases he
      refine .inr ⟨hafter e (by simp), before, front, rfl, hne, fun e' he' => hafter e' ?_⟩
      simp [he']
  · rintro (htold | ⟨hconcerns, before, after, rfl, hne, hafter⟩)
    · obtain ⟨rfl, hne⟩ := SchemaEvent.told?_eq_some_iff.1 htold
      exact ⟨history, [], rfl, hne, nofun⟩
    · refine ⟨before, after ++ [e], by simp, hne, fun e' he' => ?_⟩
      rcases List.mem_append.1 he' with he' | he'
      · exact hafter e' he'
      · rwa [List.mem_singleton.1 he']

namespace SchemaCache

/-- What was there already stays as long as nothing concerns the table. -/
theorem get?_learn (cache : SchemaCache) (events : List SchemaEvent) {table : String}
    {known : TableColumns} :
    (cache.learn events).get? table = some known ↔
      known.table = table ∧ LastTold events known ∨
        (∀ e ∈ events, ¬ e.Concerns table) ∧ cache.get? table = some known := by
  induction events using List.reverseRecOn with
  | nil => simp [not_lastTold_nil]
  | append_singleton events e ih =>
    rw [learn_concat, lastTold_concat]
    by_cases hconcerns : e.Concerns table
    · rw [get?_heed_of_concerns _ hconcerns]
      constructor
      · intro htold
        exact .inl ⟨hconcerns.table_eq htold, .inl htold⟩
      · rintro (⟨rfl, htold | ⟨hnot, -⟩⟩ | ⟨hnone, -⟩)
        · exact htold
        · exact absurd hconcerns hnot
        · exact absurd hconcerns (hnone e (by simp))
    · rw [get?_heed_of_not_concerns _ hconcerns, ih]
      have htold : known.table = table → e.told? ≠ some known := by
        rintro rfl h
        exact hconcerns (.inr (.inr ⟨known.columns, h⟩))
      by_cases htable : known.table = table
      · simp [htable, htold htable, hconcerns, or_imp, forall_and]
      · simp [htable, hconcerns, or_imp, forall_and]

theorem get?_learn_empty (events : List SchemaEvent) {table : String} {known : TableColumns} :
    (empty.learn events).get? table = some known ↔ known.table = table ∧ LastTold events known := by
  simp [get?_learn, get?_empty]

/-- Answers alone make nothing forgotten. -/
theorem get?_learn_described (cache : SchemaCache) {events : List SchemaEvent} {table : String}
    (h : ∀ e ∈ events, ∃ table answer, e = .described table answer) :
    (cache.learn events).get? table = cache.get? table ∨
      ∃ known, known.table = table ∧ (cache.learn events).get? table = some known ∧
        LastTold events known := by
  induction events using List.reverseRecOn with
  | nil => exact .inl rfl
  | append_singleton events e ih =>
    rw [learn_concat]
    by_cases hconcerns : e.Concerns table
    · obtain ⟨table', answer, rfl⟩ := h e (by simp)
      obtain hforget | hforget | ⟨columns, htold⟩ := id hconcerns
      · cases hforget
      · cases hforget
      · refine .inr ⟨⟨table, columns⟩, rfl, ?_, lastTold_concat.2 (.inl htold)⟩
        rw [get?_heed_of_concerns _ hconcerns, htold]
    · rw [get?_heed_of_not_concerns _ hconcerns]
      refine (ih fun e' he' => h e' (List.mem_append_left _ he')).imp id ?_
      rintro ⟨known, rfl, hget, htold⟩
      exact ⟨known, rfl, hget, lastTold_concat.2 (.inr ⟨hconcerns, htold⟩)⟩

end SchemaCache
end FilterSql

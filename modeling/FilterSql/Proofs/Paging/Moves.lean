import FilterSql.Proofs.Paging.Numbered
import Mathlib.Logic.Relation

/-!
# FilterSql.Proofs.Paging.Moves

Pages move only when a page was read. Between two readings the session may be used for other things.

* `OffsetPages.LeadsTo`, `SeekPages.LeadsTo`: one reading, as a step from pages to pages.
* `OffsetPages.read_ok`, `SeekPages.read_ok`: where a reading that succeeds leads to.
* `OffsetPages.Sound`, `SeekPages.Sound`: what no reading changes, and what readings do.
* `pages_sound`: it holds after any readings.
-/

namespace FilterSql

open Relation (ReflTransGen)

variable {σ : Type} {db : Database σ}

/-! ## Pages by number -/

namespace OffsetPages

/-- Pages before and after a reading, whatever is read and whatever comes of it. -/
def LeadsTo (db : Database σ) (o o' : OffsetPages) : Prop :=
  ∃ page all, ∃ s s' : Session σ, ∃ r, read db page all (o, s) = (r, o', s')

variable {o o' : OffsetPages} {page : Nat} {all : Bool} {s s' : Session σ}
  {r : Except Error (List Row)} {rows : List Row}

theorem read_unmoved (h : read db page all (o, s) = (r, o', s'))
    (hstay : all = true ∨ ∃ e, r = .error e) : o' = o := by
  cases hin : (page < 1 || o.lastPage < page) with
  | true =>
    rw [read_outside db hin] at h
    cases h
    rfl
  | false =>
    rw [read_inside db hin] at h
    cases all with
    | true =>
      cases h
      rfl
    | false =>
      simp only [Bool.false_eq_true, if_false, Run.inner_bind] at h
      rcases hfetch : db.fetch (o.pageQuery page) s with ⟨e | rows, s₁⟩ <;> rw [hfetch] at h <;>
        cases h
      · rfl
      · obtain hall | ⟨e, he⟩ := hstay
        · cases hall
        · cases he

theorem read_ok (h : read db page false (o, s) = (.ok rows, o', s')) :
    1 ≤ page ∧ o' = o.moveTo page := by
  by_cases hin : 1 ≤ page ∧ page ≤ max o.paged.pages 1
  · rw [read_of_mem db hin] at h
    rcases hfetch : db.fetch (o.pageQuery page) s with ⟨e | rows, s₁⟩ <;> rw [hfetch] at h <;>
      cases h
    exact ⟨hin.1, rfl⟩
  · rw [read_of_not_mem db hin] at h
    cases h

/-- Pages that are those they began as, but for where they stand. -/
structure Sound (db : Database σ) (o₀ o : OffsetPages) : Prop where
  paged : o.paged = o₀.paged
  unmoved : ∀ page all (s s' : Session σ) r o', read db page all (o, s) = (r, o', s') →
    (all = true ∨ ∃ e, r = .error e) → o' = o
  moved : ∀ page (s s' : Session σ) rows o', read db page false (o, s) = (.ok rows, o', s') →
    1 ≤ page ∧ o'.page = page ∧ o'.prev = page - 1 ∧
      o'.next = if page < o.paged.pages then page + 1 else 0

theorem paged_of_leadsTo (h : LeadsTo db o o') : o'.paged = o.paged := by
  obtain ⟨page, all, s, s', r, hread⟩ := h
  cases all with
  | true => rw [read_unmoved hread (.inl rfl)]
  | false =>
    cases r with
    | error e => rw [read_unmoved hread (.inr ⟨e, rfl⟩)]
    | ok rows =>
      rw [(read_ok hread).2]
      rfl

theorem sound_of_readings {o₀ : OffsetPages} (h : ReflTransGen (LeadsTo db) o₀ o) :
    Sound db o₀ o where
  paged := by
    induction h with
    | refl => rfl
    | tail _ hread ih => rw [paged_of_leadsTo hread, ih]
  unmoved _ _ _ _ _ _ hread := read_unmoved hread
  moved page _ _ _ _ hread := by
    obtain ⟨hpage, rfl⟩ := read_ok hread
    exact ⟨hpage, rfl, rfl, rfl⟩

end OffsetPages

/-! ## Pages by cursor -/

namespace SeekPages

def LeadsTo (db : Database σ) (p p' : SeekPages) : Prop :=
  ∃ key all, ∃ s s' : Session σ, ∃ r, read db key all (p, s) = (r, p', s')

variable {p p' : SeekPages} {key : Option String} {all : Bool} {s s' : Session σ}
  {r : Except Error (List Row)} {rows : List Row}

theorem isSome_of_nextToken {next : Option String} (h : p.nextToken rows = .ok next) :
    next.isSome = true ↔ rows.length = p.paged.pageSize := by
  cases next with
  | some token =>
    obtain ⟨-, -, -, hfull, -⟩ := nextToken_eq_ok_some_iff.1 h
    simp [hfull]
  | none =>
    have hshort : rows.length ≠ p.paged.pageSize := by
      intro hfull
      cases hlast : rows.getLast? with
      | none =>
        have hpos := p.paged.pageSize_pos
        rw [List.getLast?_eq_none_iff.1 hlast, List.length_nil] at hfull
        omega
      | some row =>
        rw [nextToken, hlast] at h
        simp only [hfull, if_true] at h
        split at h <;> cases h
    simp [hshort]

theorem read_ok (h : read db key false (p, s) = (.ok rows, p', s')) :
    ∃ next, p' = p.moveTo key next ∧ (next.isSome = true ↔ rows.length = p.paged.pageSize) ∧
      (p.paged.resultCount = 0 → next = none) := by
  by_cases hc : p.paged.resultCount = 0
  · rw [read_of_empty db key hc] at h
    have hpos := p.paged.pageSize_pos
    split at h <;> cases h
    refine ⟨none, rfl, ?_, fun _ => rfl⟩
    simp only [Option.isSome_none, Bool.false_eq_true, List.length_nil, false_iff]
    omega
  · cases hrequest : p.request key with
    | error e =>
      rw [read_of_request_error db hc hrequest] at h
      cases h
    | ok q =>
      rw [read_of_request_ok db hc hrequest] at h
      rcases hfetch : db.fetch q s with ⟨e | found, s₁⟩ <;> rw [hfetch] at h
      · cases h
      · cases hnext : p.nextToken found <;> simp only [hnext] at h <;> cases h
        exact ⟨_, rfl, isSome_of_nextToken hnext, fun hempty => absurd hempty hc⟩

theorem read_unmoved (h : read db key all (p, s) = (r, p', s'))
    (hstay : all = true ∨ ∃ e, r = .error e) : p' = p := by
  obtain rfl | ⟨e, rfl⟩ := hstay
  · rw [read_all] at h
    cases h
    rfl
  · exact read_error_pages h

/-- A reading leads nowhere or on, and in an empty result to the end. -/
theorem leadsTo_cases (h : LeadsTo db p p') : p' = p ∨ ∃ key next, p' = p.moveTo key next ∧
    (p.paged.resultCount = 0 → next = none) := by
  obtain ⟨key, all, s, s', r, hread⟩ := h
  cases all with
  | true => exact .inl (read_unmoved hread (.inl rfl))
  | false =>
    cases r with
    | error e => exact .inl (read_unmoved hread (.inr ⟨e, rfl⟩))
    | ok rows =>
      obtain ⟨next, hp', -, hempty⟩ := read_ok hread
      exact .inr ⟨key, next, hp', hempty⟩

/-- Pages that are those they began as, but for where they stand, and that are not at their end if
there is a page to come. -/
structure Steady (p₀ p : SeekPages) : Prop where
  paged : p.paged = p₀.paged
  ordering : p.ordering = p₀.ordering
  more : p.lastResult.isSome = true → p.exhausted = false
  empty : p.paged.resultCount = 0 → p.exhausted = true

theorem steady_of_start {q : SelectQuery} {pageSize : Nat} {idColumn : Option String}
    (h : start db q pageSize idColumn s = (.ok p, s')) : Steady p p := by
  obtain ⟨paged, _, -, -, -, rfl⟩ := of_start h
  exact ⟨rfl, rfl, nofun, beq_iff_eq.2⟩

theorem Steady.of_leadsTo {p₀ : SeekPages} (h : Steady p₀ p) (hread : LeadsTo db p p') :
    Steady p₀ p' := by
  obtain rfl | ⟨key, next, rfl, hempty⟩ := leadsTo_cases hread
  · exact h
  · refine ⟨h.paged, h.ordering, fun hmore => ?_, fun hcount => ?_⟩
    · simpa [moveTo] using hmore
    · simp [moveTo, hempty hcount]

structure Sound (db : Database σ) (p₀ p : SeekPages) : Prop extends Steady p₀ p where
  unmoved : ∀ key all (s s' : Session σ) r p', read db key all (p, s) = (r, p', s') →
    (all = true ∨ ∃ e, r = .error e) → p' = p
  moved : ∀ key (s s' : Session σ) rows p', read db key false (p, s) = (.ok rows, p', s') →
    p'.currentKey = key ∧ (p'.lastResult.isSome = true ↔ rows.length = p.paged.pageSize) ∧
      p'.exhausted = p'.lastResult.isNone

theorem sound_of_readings {q : SelectQuery} {pageSize : Nat} {idColumn : Option String}
    {p₀ : SeekPages} (hstart : start db q pageSize idColumn s = (.ok p₀, s'))
    (h : ReflTransGen (LeadsTo db) p₀ p) : Sound db p₀ p where
  toSteady := by
    induction h with
    | refl => exact steady_of_start hstart
    | tail _ hread ih => exact ih.of_leadsTo hread
  unmoved _ _ _ _ _ _ hread := read_unmoved hread
  moved key _ _ _ _ hread := by
    obtain ⟨next, rfl, hfull, -⟩ := read_ok hread
    exact ⟨rfl, hfull, rfl⟩

end SeekPages

/-- Whatever was read, the pages are as many as they were, and they stand where the last page that
was read successfully has left them. -/
theorem pages_sound (db : Database σ) (q : SelectQuery) (pageSize : Nat)
    (idColumn : Option String) (s : Session σ) :
    (∀ o₀ s', OffsetPages.start db q pageSize idColumn s = (.ok o₀, s') →
      ∀ o, ReflTransGen (OffsetPages.LeadsTo db) o₀ o →
        o.paged.pageSize = pageSize ∧
          o.paged.pages = ⌈(o.paged.resultCount : ℚ) / o.paged.pageSize⌉₊ ∧
            OffsetPages.Sound db o₀ o) ∧
    ∀ p₀ s', SeekPages.start db q pageSize idColumn s = (.ok p₀, s') →
      ∀ p, ReflTransGen (SeekPages.LeadsTo db) p₀ p →
        p.paged.pageSize = pageSize ∧
          p.paged.pages = ⌈(p.paged.resultCount : ℚ) / p.paged.pageSize⌉₊ ∧
            SeekPages.Sound db p₀ p := by
  constructor
  · intro o₀ s' hstart o hreadings
    have hsound := OffsetPages.sound_of_readings hreadings
    obtain ⟨_, -, hsize, rfl⟩ := OffsetPages.of_start hstart
    refine ⟨?_, o.paged.pages_eq_ceil, hsound⟩
    rw [hsound.paged, hsize]
  · intro p₀ s' hstart p hreadings
    have hsound := SeekPages.sound_of_readings hstart hreadings
    obtain ⟨_, _, -, -, hsize, rfl⟩ := SeekPages.of_start hstart
    refine ⟨?_, p.paged.pages_eq_ceil, hsound⟩
    rw [hsound.paged, hsize]

/-- The first of three items was read, so there is a page to come. -/
theorem pages_sound_ofItems :
    (SeekPages.ofItems.moveTo none (some SeekPages.firstToken)).exhausted = false := by
  obtain ⟨s, hs, hstart⟩ := SeekPages.start_ofItems [.rows [SeekPages.firstItem]]
  obtain ⟨s', -, hread⟩ := SeekPages.read_ofItems hs
  have hsound := (pages_sound (Script.database .sqlite) (.ofTable "items") 1 none _).2 _ _ hstart _
    (.single ⟨none, false, s, s', _, hread⟩)
  exact hsound.2.2.more rfl

end FilterSql

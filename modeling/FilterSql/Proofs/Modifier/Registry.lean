import FilterSql.Modifier.SoftDelete
import Mathlib.Data.List.Induction
import Mathlib.Data.List.Nodup

/-!
# FilterSql.Proofs.Modifier.Registry

A registry is a list of modifiers without two of one id, in the order in which they were added.

* `ModifierRegistry.after`: the registry that a history of calls leaves.
* `Registered`: the ids that a history leaves registered.
* `LatestAdd`: where a history added a modifier for the last time.
* `leaves_after`: every history leaves the modifiers of those ids, in the order of those adds.
* `Outcome`, `applyAll_eq_iff`: what comes of modifiers that are applied in turn.
* `ModifierRegistry.inOrder_after`: a registry with any history.
-/

namespace FilterSql

inductive RegistryCall where
  | add (m : Modifier)
  | remove (id : String)

/-- An add of the id has no remove of it behind it. -/
def Registered (history : List RegistryCall) (id : String) : Prop :=
  ∃ before m after, history = before ++ .add m :: after ∧ m.id = id ∧ .remove id ∉ after

section Registered

variable {history : List RegistryCall} {id : String}

theorem not_registered_nil (id : String) : ¬ Registered [] id := by
  rintro ⟨before, m, after, h, -, -⟩
  simp at h

theorem Registered.concat (h : Registered history id) {call : RegistryCall}
    (hcall : call ≠ .remove id) : Registered (history ++ [call]) id := by
  obtain ⟨before, m, after, rfl, hm, hafter⟩ := h
  refine ⟨before, m, after ++ [call], by simp, hm, ?_⟩
  rw [List.mem_append, List.mem_singleton]
  rintro (hmem | rfl)
  · exact hafter hmem
  · exact hcall rfl

theorem registered_concat {call : RegistryCall} :
    Registered (history ++ [call]) id ↔
      (∃ m, call = .add m ∧ m.id = id) ∨ call ≠ .remove id ∧ Registered history id := by
  constructor
  · rintro ⟨before, m, after, h, hm, hafter⟩
    obtain rfl | ⟨front, last, rfl⟩ := List.eq_nil_or_concat after
    · obtain ⟨-, hcall⟩ := List.append_inj' h rfl
      exact .inl ⟨m, List.singleton_inj.1 hcall, hm⟩
    · rw [List.concat_eq_append] at h hafter
      rw [← List.cons_append, ← List.append_assoc] at h
      obtain ⟨hhistory, hcall⟩ := List.append_inj' h rfl
      rw [List.mem_append, not_or] at hafter
      obtain rfl := List.singleton_inj.1 hcall
      exact .inr ⟨fun heq => hafter.2 (heq ▸ List.mem_singleton_self _),
        before, m, front, hhistory, hm, hafter.1⟩
  · rintro (⟨m, rfl, hm⟩ | ⟨hcall, h⟩)
    · exact ⟨history, m, [], rfl, hm, nofun⟩
    · exact h.concat hcall

theorem registered_concat_add {m : Modifier} :
    Registered (history ++ [.add m]) id ↔ m.id = id ∨ Registered history id := by
  simp [registered_concat]

theorem registered_concat_remove {id' : String} :
    Registered (history ++ [.remove id']) id ↔ id' ≠ id ∧ Registered history id := by
  simp [registered_concat]

end Registered

/-! ## Single calls -/

namespace ModifierRegistry

def ids (r : ModifierRegistry) : List String := r.modifiers.map Modifier.id

variable {r : ModifierRegistry} {m : Modifier} {id : String}

theorem ids_concat (r : ModifierRegistry) (m : Modifier) :
    ids ⟨r.modifiers ++ [m]⟩ = r.ids ++ [m.id] :=
  List.map_append

theorem ids_perm_of_split {before rest : List Modifier} (h : r.modifiers = before ++ m :: rest) :
    r.ids.Perm (m.id :: ids ⟨before ++ rest⟩) := by
  rw [ids, h]
  exact List.perm_middle.map Modifier.id

theorem contains_iff : r.contains id = true ↔ id ∈ r.ids := by
  simp [contains, ids]

theorem add_of_mem (h : m.id ∈ r.ids) : r.add m = (false, r) :=
  if_pos (contains_iff.2 h)

theorem add_of_notMem (h : m.id ∉ r.ids) : r.add m = (true, ⟨r.modifiers ++ [m]⟩) :=
  if_neg fun hcontains => h (contains_iff.1 hcontains)

theorem remove_of_notMem (h : id ∉ r.ids) : r.remove id = (false, r) := by
  have hkept : (r.modifiers.filter fun m => m.id != id) = r.modifiers := by
    refine List.filter_eq_self.2 fun m hm => bne_iff_ne.2 ?_
    rintro rfl
    exact h (List.mem_map_of_mem hm)
  simp only [remove, hkept, bne_self_eq_false]

/-- Only the modifier of the id goes, as there is one of the id only. -/
theorem remove_of_split {before rest : List Modifier} (hnodup : r.ids.Nodup)
    (h : r.modifiers = before ++ m :: rest) : r.remove m.id = (true, ⟨before ++ rest⟩) := by
  have hgone := (List.nodup_cons.1 ((ids_perm_of_split h).nodup_iff.1 hnodup)).1
  have hothers : ((before ++ rest).filter fun m' => m'.id != m.id) = before ++ rest := by
    refine List.filter_eq_self.2 fun m' hm' => bne_iff_ne.2 fun heq => hgone ?_
    rw [← heq]
    exact List.mem_map_of_mem hm'
  have hkept : (r.modifiers.filter fun m' => m'.id != m.id) = before ++ rest := by
    rw [h, List.filter_append, List.filter_cons_of_neg (by simp), ← List.filter_append, hothers]
  have hlength : (before ++ rest).length ≠ r.modifiers.length := by
    rw [h, List.length_append, List.length_append, List.length_cons]
    omega
  simp only [remove, hkept, bne_iff_ne.2 hlength]

theorem exists_split (h : id ∈ r.ids) :
    ∃ before m rest, r.modifiers = before ++ m :: rest ∧ m.id = id := by
  obtain ⟨m, hm, rfl⟩ := List.mem_map.1 h
  obtain ⟨before, rest, hsplit⟩ := List.append_of_mem hm
  exact ⟨before, m, rest, hsplit, rfl⟩

/-- The answer to a call and the registry after it. -/
def perform (r : ModifierRegistry) : RegistryCall → Bool × ModifierRegistry
  | .add m => r.add m
  | .remove id => r.remove id

def after (history : List RegistryCall) : ModifierRegistry :=
  history.foldl (fun r call => (r.perform call).2) empty

theorem after_concat (history : List RegistryCall) (call : RegistryCall) :
    after (history ++ [call]) = ((after history).perform call).2 := by
  rw [after, List.foldl_append, List.foldl_cons, List.foldl_nil, after]

end ModifierRegistry

/-! ## Histories -/

/-- The call at the position adds the modifier, and the answer is that its id is new. -/
def AddsAt (history : List RegistryCall) (i : ℕ) (m : Modifier) : Prop :=
  history[i]? = some (.add m) ∧ ((ModifierRegistry.after (history.take i)).add m).1 = true

/-- No later add of the id succeeds. -/
def LatestAdd (history : List RegistryCall) (i : ℕ) (m : Modifier) : Prop :=
  AddsAt history i m ∧ ∀ j m', i < j → m'.id = m.id → ¬ AddsAt history j m'

def AddedBefore (history : List RegistryCall) (m m' : Modifier) : Prop :=
  ∃ i j, i < j ∧ LatestAdd history i m ∧ LatestAdd history j m'

/-- What a history leaves: for every id that is registered one modifier, in the order of their
latest successful adds. -/
structure Leaves (history : List RegistryCall) (r : ModifierRegistry) : Prop where
  nodup : r.ids.Nodup
  mem_ids : ∀ id, id ∈ r.ids ↔ Registered history id
  latest : ∀ m ∈ r.modifiers, ∃ i, LatestAdd history i m
  inTurn : r.modifiers.Pairwise (AddedBefore history)

section Histories

open ModifierRegistry

variable {history : List RegistryCall} {call : RegistryCall} {i : ℕ} {m m' : Modifier}

theorem AddsAt.lt_length (h : AddsAt history i m) : i < history.length :=
  (List.getElem?_eq_some_iff.1 h.1).1

theorem addsAt_concat_of_lt (h : i < history.length) :
    AddsAt (history ++ [call]) i m ↔ AddsAt history i m := by
  rw [AddsAt, AddsAt, List.getElem?_append_left h, List.take_append_of_le_length (Nat.le_of_lt h)]

theorem addsAt_concat_length :
    AddsAt (history ++ [call]) history.length m ↔
      call = .add m ∧ ((after history).add m).1 = true := by
  rw [AddsAt, List.getElem?_concat_length, List.take_left, Option.some_inj]

theorem latestAdd_concat_length (h : ((after history).add m).1 = true) :
    LatestAdd (history ++ [.add m]) history.length m := by
  refine ⟨addsAt_concat_length.2 ⟨rfl, h⟩, fun j m' hj _ hadds => ?_⟩
  have hlt := hadds.lt_length
  rw [List.length_append, List.length_singleton] at hlt
  omega

/-- As long as the id is there, no other add of it succeeds. -/
theorem LatestAdd.concat (h : LatestAdd history i m) (hm : m ∈ (after history).modifiers)
    (call : RegistryCall) : LatestAdd (history ++ [call]) i m := by
  refine ⟨(addsAt_concat_of_lt h.1.lt_length).2 h.1, fun j m' hj hid hadds => ?_⟩
  have hlt := hadds.lt_length
  rw [List.length_append, List.length_singleton, Nat.lt_succ_iff_lt_or_eq] at hlt
  rcases hlt with hlt | rfl
  · exact h.2 j m' hj hid ((addsAt_concat_of_lt hlt).1 hadds)
  · have hmem : m'.id ∈ (after history).ids := hid ▸ List.mem_map_of_mem hm
    have htrue := (addsAt_concat_length.1 hadds).2
    rw [add_of_mem hmem] at htrue
    exact Bool.false_ne_true htrue

namespace Leaves

theorem latest_concat (h : Leaves history (after history)) (call : RegistryCall) :
    ∀ m ∈ (after history).modifiers, ∃ i < history.length, LatestAdd (history ++ [call]) i m := by
  intro m hm
  obtain ⟨i, hi⟩ := h.latest m hm
  exact ⟨i, hi.1.lt_length, hi.concat hm call⟩

theorem inTurn_concat (h : Leaves history (after history)) (call : RegistryCall) :
    (after history).modifiers.Pairwise (AddedBefore (history ++ [call])) := by
  refine h.inTurn.imp_of_mem fun hm hm' => ?_
  rintro ⟨i, j, hlt, hi, hj⟩
  exact ⟨i, j, hlt, hi.concat hm call, hj.concat hm' call⟩

/-- What a history leaves is what one more call leaves that changes nothing. -/
theorem unchanged (h : Leaves history (after history)) {call : RegistryCall}
    (hids : ∀ id, Registered (history ++ [call]) id ↔ Registered history id) :
    Leaves (history ++ [call]) (after history) where
  nodup := h.nodup
  mem_ids id := (h.mem_ids id).trans (hids id).symm
  latest m hm := (h.latest_concat call m hm).imp fun _ hi => hi.2
  inTurn := h.inTurn_concat call

theorem add (h : Leaves history (after history)) (m : Modifier) :
    Leaves (history ++ [.add m]) (after (history ++ [.add m])) := by
  rw [after_concat, perform]
  by_cases hmem : m.id ∈ (after history).ids
  · rw [add_of_mem hmem]
    refine h.unchanged fun id => registered_concat_add.trans (or_iff_right_of_imp ?_)
    rintro rfl
    exact (h.mem_ids _).1 hmem
  · have hadd := add_of_notMem hmem
    have hnew : LatestAdd (history ++ [.add m]) history.length m :=
      latestAdd_concat_length (by rw [hadd])
    rw [hadd]
    refine ⟨?_, fun id => ?_, ?_, ?_⟩
    · rw [ids_concat, ← List.concat_eq_append]
      exact h.nodup.concat hmem
    · rw [ids_concat, List.mem_append, List.mem_singleton, h.mem_ids, registered_concat_add,
        or_comm, eq_comm]
    · rw [List.forall_mem_append, List.forall_mem_singleton]
      exact ⟨fun m' hm' => (h.latest_concat _ m' hm').imp fun _ hi => hi.2, _, hnew⟩
    · refine List.pairwise_append.2 ⟨h.inTurn_concat _, List.pairwise_singleton _ _, ?_⟩
      intro m' hm' m'' hm''
      obtain ⟨i, hlt, hi⟩ := h.latest_concat (.add m) m' hm'
      rw [List.mem_singleton.1 hm'']
      exact ⟨i, _, hlt, hi, hnew⟩

theorem remove (h : Leaves history (after history)) (id : String) :
    Leaves (history ++ [.remove id]) (after (history ++ [.remove id])) := by
  rw [after_concat, perform]
  by_cases hmem : id ∈ (after history).ids
  · obtain ⟨before, m, rest, hsplit, rfl⟩ := exists_split hmem
    rw [remove_of_split h.nodup hsplit]
    have hsub : (before ++ rest).Sublist (after history).modifiers := by
      rw [hsplit]
      exact (List.sublist_cons_self m rest).append_left before
    have hperm := ids_perm_of_split hsplit
    obtain ⟨hgone, hnodup⟩ := List.nodup_cons.1 (hperm.nodup_iff.1 h.nodup)
    refine ⟨hnodup, fun id => ?_, fun m' hm' => ?_, (h.inTurn_concat _).sublist hsub⟩
    · rw [registered_concat_remove, ← h.mem_ids, hperm.mem_iff, List.mem_cons]
      constructor
      · intro hid
        exact ⟨fun heq => hgone (heq ▸ hid), .inr hid⟩
      · rintro ⟨hne, rfl | hid⟩
        · exact absurd rfl hne
        · exact hid
    · exact (h.latest_concat _ m' (hsub.subset hm')).imp fun _ hi => hi.2
  · rw [remove_of_notMem hmem]
    refine h.unchanged fun id' => registered_concat_remove.trans (and_iff_right_of_imp ?_)
    rintro hreg rfl
    exact hmem ((h.mem_ids _).2 hreg)

end Leaves

theorem leaves_after (history : List RegistryCall) : Leaves history (after history) := by
  induction history using List.reverseRecOn with
  | nil => exact ⟨List.nodup_nil, fun id => by simp [not_registered_nil, after, ids, empty],
      nofun, List.Pairwise.nil⟩
  | append_singleton history call ih =>
    cases call with
    | add m => exact ih.add m
    | remove id => exact ih.remove id

end Histories

/-! ## Modifiers in turn -/

/-- Each modifier gets the query that the one before it made. -/
inductive Chained (context : ModifierContext) : List Modifier → Query → Query → Prop where
  | nil (q : Query) : Chained context [] q q
  | cons {m : Modifier} {rest : List Modifier} {q q' last : Query} :
      m.modify context q = .ok q' → Chained context rest q' last →
        Chained context (m :: rest) q last

/-- The query that all of them make in turn, or the first error. The modifiers behind the one that
fails may be any, as they do not run. -/
inductive Outcome (context : ModifierContext) (q : Query) :
    List Modifier → Except Error Query → Prop where
  | all {modifiers : List Modifier} {last : Query} :
      Chained context modifiers q last → Outcome context q modifiers (.ok last)
  | stop {before : List Modifier} {m : Modifier} {q' : Query} {e : Error}
      (rest : List Modifier) : Chained context before q q' → m.modify context q' = .error e →
        Outcome context q (before ++ m :: rest) (.error e)

section Outcome

open ModifierRegistry

variable {context : ModifierContext} {modifiers : List Modifier} {q q' : Query}
  {result : Except Error Query}

theorem Chained.applyAll_append (h : Chained context modifiers q q') (rest : List Modifier) :
    applyAll context (modifiers ++ rest) q = applyAll context rest q' := by
  induction h with
  | nil q => rfl
  | cons hm _ ih => simp only [List.cons_append, applyAll, hm, ih]

theorem Outcome.cons {m : Modifier} (hm : m.modify context q = .ok q')
    (h : Outcome context q' modifiers result) : Outcome context q (m :: modifiers) result := by
  cases h with
  | all hchain => exact .all (.cons hm hchain)
  | stop rest hchain he => exact .stop rest (.cons hm hchain) he

theorem outcome_applyAll (context : ModifierContext) (modifiers : List Modifier) (q : Query) :
    Outcome context q modifiers (applyAll context modifiers q) := by
  induction modifiers generalizing q with
  | nil => exact .all (.nil q)
  | cons m rest ih =>
    rw [applyAll]
    cases hm : m.modify context q with
    | error e => exact .stop rest (.nil q) hm
    | ok q' => exact .cons hm (ih q')

theorem applyAll_eq_iff :
    applyAll context modifiers q = result ↔ Outcome context q modifiers result := by
  constructor
  · rintro rfl
    exact outcome_applyAll context modifiers q
  · intro h
    cases h with
    | all hchain =>
      have happly := hchain.applyAll_append []
      rwa [List.append_nil] at happly
    | stop rest hchain he =>
      rw [hchain.applyAll_append, applyAll, he]

end Outcome

namespace ModifierRegistry

/-- What holds of a registry with a history. -/
structure InOrder (history : List RegistryCall) (r : ModifierRegistry) : Prop
    extends Leaves history r where
  contains : ∀ id, r.contains id = true ↔ id ∈ r.ids
  isEmpty : r.isEmpty = true ↔ r.modifiers = []
  add : ∀ m, Registered history m.id ∧ r.add m = (false, r) ∨
    ¬ Registered history m.id ∧ r.add m = (true, ⟨r.modifiers ++ [m]⟩)
  remove : ∀ id, ¬ Registered history id ∧ r.remove id = (false, r) ∨
    Registered history id ∧ ∃ before m rest, r.modifiers = before ++ m :: rest ∧ m.id = id ∧
      r.remove id = (true, ⟨before ++ rest⟩)
  apply : ∀ context q result,
    r.apply context q = result ↔ Outcome context q r.modifiers result

theorem inOrder_after (history : List RegistryCall) : InOrder history (after history) where
  toLeaves := leaves_after history
  contains _ := contains_iff
  isEmpty := List.isEmpty_iff
  add m := by
    rw [← (leaves_after history).mem_ids]
    by_cases h : m.id ∈ (after history).ids
    · exact .inl ⟨h, add_of_mem h⟩
    · exact .inr ⟨h, add_of_notMem h⟩
  remove id := by
    rw [← (leaves_after history).mem_ids]
    by_cases h : id ∈ (after history).ids
    · obtain ⟨before, m, rest, hsplit, rfl⟩ := exists_split h
      exact .inr ⟨h, before, m, rest, hsplit, rfl,
        remove_of_split (leaves_after history).nodup hsplit⟩
    · exact .inl ⟨h, remove_of_notMem h⟩
  apply _ _ _ := applyAll_eq_iff

/-- A modifier that comes back comes last. -/
example : (after [.add (SoftDelete.modifier ⟨"removed_at"⟩), .add ⟨"limit", fun _ q => .ok q⟩,
    .add (SoftDelete.modifier ⟨"deleted_at"⟩), .remove "soft_delete",
    .add (SoftDelete.modifier ⟨"deleted_at"⟩)]).ids = ["limit", "soft_delete"] := by
  decide

end ModifierRegistry
end FilterSql

import Mathlib.Data.List.Perm.Subperm
import Mathlib.Data.List.Induction
import Mathlib.Data.List.Nodup
import FilterSql.Json.Basic

/-!
# FilterSql.Proofs.Json.Fields

The fields of an object as a map: what an insert does to the keys and to a look-up, which pairs
make a map as they stand, and where the fields of a map come from.
-/

namespace FilterSql
namespace Fields

theorem get?_cons (k : String) (v : Json) (rest : Fields) (key : String) :
    get? ((k, v) :: rest) key = if k = key then some v else get? rest key := rfl

theorem get?_insert (fields : Fields) (k : String) (v : Json) (key : String) :
    get? (insert fields k v) key = if k = key then some v else get? fields key := by
  induction fields with
  | nil => rfl
  | cons field rest ih =>
    obtain ⟨k', v'⟩ := field
    by_cases hk : k' = k
    · subst hk
      by_cases hkey : k' = key <;> simp [insert, get?_cons, hkey]
    · by_cases hkey : k' = key
      · subst hkey
        simp [insert, get?_cons, hk, Ne.symm hk]
      · simp [insert, get?_cons, hk, hkey, ih]

theorem get?_eq_none_iff {fields : Fields} {key : String} :
    get? fields key = none ↔ key ∉ keys fields := by
  induction fields with
  | nil => simp [get?, keys]
  | cons field rest ih =>
    obtain ⟨k, v⟩ := field
    by_cases hk : k = key
    · simp [get?_cons, keys, hk]
    · simp only [keys] at ih
      simp [get?_cons, keys, hk, Ne.symm hk, ih]

theorem isSome_get?_iff {fields : Fields} {key : String} :
    (get? fields key).isSome ↔ key ∈ keys fields := by
  rw [← Option.ne_none_iff_isSome, ne_eq, get?_eq_none_iff, not_not]

theorem get?_eq_some_iff {fields : Fields} {key : String} {v : Json} (h : (keys fields).Nodup) :
    get? fields key = some v ↔ (key, v) ∈ fields := by
  induction fields with
  | nil => simp [get?]
  | cons field rest ih =>
    obtain ⟨k, w⟩ := field
    obtain ⟨hk, hrest⟩ := List.nodup_cons.1 h
    by_cases hkey : k = key
    · subst hkey
      have hnew : (k, v) ∉ rest := fun hmem => hk (List.mem_map.2 ⟨_, hmem, rfl⟩)
      simp [get?_cons, hnew, eq_comm]
    · simp [get?_cons, hkey, Ne.symm hkey, ih hrest]

theorem mem_keys_insert {fields : Fields} {k : String} {v : Json} {key : String} :
    key ∈ keys (insert fields k v) ↔ k = key ∨ key ∈ keys fields := by
  rw [← isSome_get?_iff, get?_insert]
  by_cases h : k = key
  · simp [h]
  · simp [h, isSome_get?_iff]

theorem insert_of_notMem {fields : Fields} {k : String} (v : Json) (h : k ∉ keys fields) :
    insert fields k v = fields ++ [(k, v)] := by
  induction fields with
  | nil => rfl
  | cons field rest ih =>
    obtain ⟨k', v'⟩ := field
    simp only [keys, List.map_cons, List.mem_cons, not_or] at h
    obtain ⟨hk, hrest⟩ := h
    simp [insert, Ne.symm hk, ih hrest]

theorem keys_insert_of_mem {fields : Fields} {k : String} (v : Json) (h : k ∈ keys fields) :
    keys (insert fields k v) = keys fields := by
  induction fields with
  | nil => simp [keys] at h
  | cons field rest ih =>
    obtain ⟨k', v'⟩ := field
    by_cases hk : k' = k
    · simp [insert, keys, hk]
    · have hrest : k ∈ keys rest := by
        simp only [keys, List.map_cons, List.mem_cons] at h
        exact h.resolve_left fun he => hk he.symm
      have := ih hrest
      simp only [keys] at this
      simp [insert, keys, hk, this]

theorem nodup_keys_insert {fields : Fields} {k : String} (v : Json) (h : (keys fields).Nodup) :
    (keys (insert fields k v)).Nodup := by
  by_cases hk : k ∈ keys fields
  · rw [keys_insert_of_mem v hk]; exact h
  · rw [insert_of_notMem v hk]
    have hnew := h.concat hk
    simpa [keys] using hnew

/-! ## Maps made of pairs -/

/-- Inserts the pairs into a map that is there already. -/
def insertAll (fields : Fields) (pairs : List (String × Json)) : Fields :=
  pairs.foldl (fun fields pair => insert fields pair.1 pair.2) fields

theorem ofList_eq_insertAll (pairs : List (String × Json)) :
    ofList pairs = insertAll [] pairs := rfl

theorem mem_keys_insertAll {pairs : List (String × Json)} {fields : Fields} {key : String} :
    key ∈ keys (insertAll fields pairs) ↔ key ∈ keys fields ∨ key ∈ pairs.map Prod.fst := by
  induction pairs generalizing fields with
  | nil => simp [insertAll]
  | cons pair rest ih =>
    rw [insertAll, List.foldl_cons, ← insertAll, ih, mem_keys_insert, List.map_cons, List.mem_cons]
    tauto

theorem nodup_keys_insertAll {pairs : List (String × Json)} {fields : Fields}
    (h : (keys fields).Nodup) : (keys (insertAll fields pairs)).Nodup := by
  induction pairs generalizing fields with
  | nil => exact h
  | cons pair rest ih => exact ih (nodup_keys_insert pair.2 h)

theorem nodup_keys_ofList (pairs : List (String × Json)) : (keys (ofList pairs)).Nodup :=
  nodup_keys_insertAll List.nodup_nil

theorem insertAll_of_nodup {pairs : List (String × Json)} {fields : Fields}
    (h : (keys fields ++ pairs.map Prod.fst).Nodup) : insertAll fields pairs = fields ++ pairs := by
  induction pairs generalizing fields with
  | nil => simp [insertAll]
  | cons pair rest ih =>
    have hnew : pair.1 ∉ keys fields := fun hk =>
      (List.nodup_append.1 h).2.2 _ hk _ (List.mem_map_of_mem List.mem_cons_self) rfl
    rw [insertAll, List.foldl_cons, ← insertAll, insert_of_notMem pair.2 hnew, ih]
    · simp
    · simpa [keys] using h

theorem ofList_of_nodup {pairs : List (String × Json)} (h : (pairs.map Prod.fst).Nodup) :
    ofList pairs = pairs := by
  rw [ofList_eq_insertAll, insertAll_of_nodup (by simpa [keys] using h), List.nil_append]

/-- Repeated keys, and nothing else, make a map smaller than the pairs it was made of. -/
theorem length_ofList_eq_iff (pairs : List (String × Json)) :
    (ofList pairs).length = pairs.length ↔ (pairs.map Prod.fst).Nodup := by
  constructor
  · intro h
    have hsub : keys (ofList pairs) ⊆ pairs.map Prod.fst := by
      intro key hkey
      rw [ofList_eq_insertAll, mem_keys_insertAll] at hkey
      simpa [keys] using hkey
    have hlen : (pairs.map Prod.fst).length ≤ (keys (ofList pairs)).length := by
      simp only [keys, List.length_map]
      omega
    have hperm := ((nodup_keys_ofList pairs).subperm hsub).perm_of_length_le hlen
    exact hperm.nodup_iff.1 (nodup_keys_ofList pairs)
  · intro h
    rw [ofList_of_nodup h]

theorem get?_insertAll_of_notMem {pairs : List (String × Json)} {fields : Fields} {key : String}
    (h : key ∉ pairs.map Prod.fst) : get? (insertAll fields pairs) key = get? fields key := by
  induction pairs generalizing fields with
  | nil => rfl
  | cons pair rest ih =>
    simp only [List.map_cons, List.mem_cons, not_or] at h
    obtain ⟨hne, hrest⟩ := h
    rw [insertAll, List.foldl_cons, ← insertAll, ih hrest, get?_insert, if_neg (Ne.symm hne)]

/-- The value that pairs give to a key that may be repeated among them: the last one. -/
def lastValue? (pairs : List (String × Json)) (key : String) : Option Json :=
  (pairs.filter fun pair => pair.1 = key).getLast?.map Prod.snd

theorem get?_ofList (pairs : List (String × Json)) (key : String) :
    get? (ofList pairs) key = lastValue? pairs key := by
  induction pairs using List.reverseRecOn with
  | nil => rfl
  | append_singleton pairs pair ih =>
    rw [ofList, List.foldl_concat, ← ofList, get?_insert, ih, lastValue?, lastValue?,
      List.filter_append]
    by_cases hkey : pair.1 = key
    · simp [hkey]
    · simp [hkey]

/-- The keys of a map made of pairs stand where they first come. -/
theorem keys_ofList (pairs : List (String × Json)) :
    keys (ofList pairs) = (pairs.map Prod.fst).eraseDups := by
  induction pairs using List.reverseRecOn with
  | nil => rfl
  | append_singleton pairs pair ih =>
    rw [ofList, List.foldl_concat, ← ofList, List.map_append, List.eraseDups_append, ← ih]
    by_cases hmem : pair.1 ∈ keys (ofList pairs)
    · have hold : pair.1 ∈ pairs.map Prod.fst := by rwa [ih, List.mem_eraseDups] at hmem
      rw [keys_insert_of_mem pair.2 hmem]
      simp [List.removeAll, hold]
    · have hnew : pair.1 ∉ pairs.map Prod.fst := by rwa [ih, List.mem_eraseDups] at hmem
      rw [insert_of_notMem pair.2 hmem]
      simp [List.removeAll, hnew, keys, List.eraseDups_cons]

/-- A map that holds each key of the pairs where it first comes, with the value it has last. -/
structure TakesLast (pairs : List (String × Json)) (fields : Fields) : Prop where
  keys : Fields.keys fields = (pairs.map Prod.fst).eraseDups
  last : ∀ field ∈ fields, lastValue? pairs field.1 = some field.2

theorem takesLast_ofList (pairs : List (String × Json)) : TakesLast pairs (ofList pairs) where
  keys := keys_ofList pairs
  last field hfield := by
    rw [← get?_ofList]
    exact (get?_eq_some_iff (nodup_keys_ofList pairs)).2 hfield

/-- Where the value is a function of the key, the order of the inserts does not matter. -/
theorem get?_insertAll_map {names : List String} {f : String → Json} {fields : Fields}
    {key : String} (h : key ∈ names) :
    get? (insertAll fields (names.map fun name => (name, f name))) key = some (f key) := by
  induction names generalizing fields with
  | nil => cases h
  | cons name rest ih =>
    rw [List.map_cons, insertAll, List.foldl_cons, ← insertAll]
    by_cases hrest : key ∈ rest
    · exact ih hrest
    · have hname : key = name := (List.mem_cons.1 h).resolve_right hrest
      subst hname
      rw [get?_insertAll_of_notMem (by simpa using hrest), get?_insert, if_pos rfl]

/-! ## Where fields come from -/

theorem mem_insert {fields : Fields} {k : String} {v : Json} {field : String × Json}
    (h : field ∈ insert fields k v) : field ∈ fields ∨ field = (k, v) := by
  induction fields with
  | nil => exact .inr (by simpa [insert] using h)
  | cons first rest ih =>
    obtain ⟨k', v'⟩ := first
    by_cases hk : k' = k
    · subst hk
      simp only [insert, if_true, List.mem_cons] at h ⊢
      tauto
    · simp only [insert, hk, if_false, List.mem_cons] at h ⊢
      tauto

theorem mem_insertAll {pairs : List (String × Json)} {fields : Fields} {field : String × Json}
    (h : field ∈ insertAll fields pairs) : field ∈ fields ∨ field ∈ pairs := by
  induction pairs generalizing fields with
  | nil => exact .inl h
  | cons pair rest ih =>
    rcases ih h with hfield | hrest
    · rcases mem_insert hfield with hold | rfl
      · exact .inl hold
      · exact .inr List.mem_cons_self
    · exact .inr (List.mem_cons_of_mem _ hrest)

theorem mem_ofList {pairs : List (String × Json)} {field : String × Json}
    (h : field ∈ ofList pairs) : field ∈ pairs := by
  rcases mem_insertAll h with hnone | hpair
  · cases hnone
  · exact hpair

theorem head?_keys_insert (field : String × Json) (rest : Fields) (k : String) (v : Json) :
    (keys (insert (field :: rest) k v)).head? = some field.1 := by
  obtain ⟨k', v'⟩ := field
  by_cases hk : k' = k <;> simp [insert, hk, keys]

theorem head?_keys_insertAll (field : String × Json) (rest : Fields)
    (pairs : List (String × Json)) :
    (keys (insertAll (field :: rest) pairs)).head? = some field.1 := by
  induction pairs generalizing field rest with
  | nil => rfl
  | cons pair others ih =>
    have hhead := head?_keys_insert field rest pair.1 pair.2
    rw [insertAll, List.foldl_cons, ← insertAll]
    cases hinsert : insert (field :: rest) pair.1 pair.2 with
    | nil => simp [hinsert, keys] at hhead
    | cons first more =>
      rw [ih]
      simpa [hinsert, keys] using hhead

theorem head?_keys_ofList (pairs : List (String × Json)) :
    (keys (ofList pairs)).head? = (pairs.map Prod.fst).head? := by
  cases pairs with
  | nil => rfl
  | cons pair rest => exact head?_keys_insertAll pair [] rest

end Fields
end FilterSql

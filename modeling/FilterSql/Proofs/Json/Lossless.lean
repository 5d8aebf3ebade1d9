import FilterSql.Proofs.Json.ReadBack

/-!
# FilterSql.Proofs.Json.Lossless

Values that come back from their text as they are. An object with a repeated key does not, nor does
one that opens as those which stand for the value of another text; but no text is read as such a
value in the first place. Whether they come back or not, no two values have the same text.

* `Json.IsExact`: values without floating-point numbers.
* `Json.HasDistinctKeys`, `Json.EmbedsNothing`: values without such objects.
* `Json.text_inj`: exact values with the same text are the same.
* `Json.reread?_eq_self_iff`: which of them come back.
-/

namespace FilterSql
namespace Json

/-- Texts, truth values, NULL, integers of 64 bits with or without a sign, and lists and objects of
such values. -/
inductive IsExact : Json → Prop
  | null : IsExact .null
  | bool (b : Bool) : IsExact (.bool b)
  | int {n : Int} (low : -2 ^ 63 ≤ n) (high : n < 2 ^ 64) : IsExact (.num (.int n))
  | str (s : String) : IsExact (.str s)
  | arr {items : List Json} (items_exact : ∀ v ∈ items, IsExact v) : IsExact (.arr items)
  | obj {fields : Fields} (values_exact : ∀ field ∈ fields, IsExact field.2) :
      IsExact (.obj fields)

/-- No object in the value opens with the key of those that stand for another text. -/
inductive EmbedsNothing : Json → Prop
  | null : EmbedsNothing .null
  | bool (b : Bool) : EmbedsNothing (.bool b)
  | num (n : Number) : EmbedsNothing (.num n)
  | str (s : String) : EmbedsNothing (.str s)
  | arr {items : List Json} (items_embed : ∀ v ∈ items, EmbedsNothing v) :
      EmbedsNothing (.arr items)
  | obj {fields : Fields} (opens : (Fields.keys fields).head? ≠ some Tree.embeddedKey)
      (values_embed : ∀ field ∈ fields, EmbedsNothing field.2) : EmbedsNothing (.obj fields)

/-- No object in the value has a key twice. -/
inductive HasDistinctKeys : Json → Prop
  | null : HasDistinctKeys .null
  | bool (b : Bool) : HasDistinctKeys (.bool b)
  | num (n : Number) : HasDistinctKeys (.num n)
  | str (s : String) : HasDistinctKeys (.str s)
  | arr {items : List Json} (items_distinct : ∀ v ∈ items, HasDistinctKeys v) :
      HasDistinctKeys (.arr items)
  | obj {fields : Fields} (distinct : (Fields.keys fields).Nodup)
      (values_distinct : ∀ field ∈ fields, HasDistinctKeys field.2) :
      HasDistinctKeys (.obj fields)

/-! ## Merged values -/

theorem mergedItems_eq_map (items : List Json) : mergedItems items = items.map merged := by
  induction items with
  | nil => rfl
  | cons v rest ih => rw [mergedItems, ih, List.map_cons]

theorem mergedFields_eq_map (fields : Fields) :
    mergedFields fields = fields.map fun field => (field.1, field.2.merged) := by
  induction fields with
  | nil => rfl
  | cons field rest ih => rw [mergedFields, ih, List.map_cons]

theorem keys_mergedFields (fields : Fields) :
    (mergedFields fields).map Prod.fst = Fields.keys fields := by
  simp [mergedFields_eq_map, Fields.keys, Function.comp_def]

theorem HasDistinctKeys.merged_eq {v : Json} (h : v.HasDistinctKeys) : v.merged = v := by
  induction h with
  | null | bool | num | str => rfl
  | @arr items _ ih =>
    rw [merged, mergedItems_eq_map, List.map_congr_left ih, List.map_id']
  | @obj fields distinct _ ih =>
    have hsame : mergedFields fields = fields := by
      rw [mergedFields_eq_map]
      exact (List.map_congr_left fun field hfield => by rw [ih field hfield]).trans
        (List.map_id' fields)
    rw [merged, hsame, Fields.ofList_of_nodup distinct]

mutual

theorem hasDistinctKeys_merged : ∀ v : Json, v.merged.HasDistinctKeys
  | .null => .null
  | .bool b => .bool b
  | .num n => .num n
  | .str s => .str s
  | .arr items => .arr (hasDistinctKeys_mergedItems items)
  | .obj fields => .obj (Fields.nodup_keys_ofList _) fun _ hfield =>
      hasDistinctKeys_mergedFields fields _ (Fields.mem_ofList hfield)

theorem hasDistinctKeys_mergedItems :
    ∀ items : List Json, ∀ v ∈ mergedItems items, v.HasDistinctKeys
  | [] => by simp [mergedItems]
  | v :: rest => List.forall_mem_cons.2
      ⟨hasDistinctKeys_merged v, hasDistinctKeys_mergedItems rest⟩

theorem hasDistinctKeys_mergedFields :
    ∀ fields : List (String × Json), ∀ field ∈ mergedFields fields, field.2.HasDistinctKeys
  | [] => by simp [mergedFields]
  | (_, v) :: rest => List.forall_mem_cons.2
      ⟨hasDistinctKeys_merged v, hasDistinctKeys_mergedFields rest⟩

end

theorem EmbedsNothing.merged {v : Json} (h : v.EmbedsNothing) : v.merged.EmbedsNothing := by
  induction h with
  | null => exact .null
  | bool b => exact .bool b
  | num n => exact .num n
  | str s => exact .str s
  | @arr items _ ih =>
    rw [Json.merged, mergedItems_eq_map]
    exact .arr (List.forall_mem_map.2 ih)
  | @obj fields opens _ ih =>
    refine .obj ?_ fun field hfield => ?_
    · rw [Fields.head?_keys_ofList, keys_mergedFields]
      exact opens
    · have hmem := Fields.mem_ofList hfield
      rw [mergedFields_eq_map] at hmem
      obtain ⟨field', hfield', rfl⟩ := List.mem_map.1 hmem
      exact ih field' hfield'

/-! ## Values of texts -/

namespace Tree

variable {read : String → Option Json}

theorem itemValues?_cons_eq_some_iff {t : Tree} {rest : List Tree} {values : List Json} :
    itemValues? read (t :: rest) = some values ↔
      ∃ v more, t.value? read = some v ∧ itemValues? read rest = some more ∧
        values = v :: more := by
  simp only [itemValues?]
  cases t.value? read with
  | none => simp
  | some v => cases itemValues? read rest <;> simp [eq_comm]

theorem fieldValues?_cons_eq_some_iff {key : Option String} {t : Tree}
    {rest : List (Option String × Tree)} {values : Fields} :
    fieldValues? read ((key, t) :: rest) = some values ↔
      ∃ k v more, key = some k ∧ t.value? read = some v ∧ fieldValues? read rest = some more ∧
        values = (k, v) :: more := by
  cases key with
  | none => simp [fieldValues?]
  | some k =>
    cases hv : t.value? read with
    | none => simp [fieldValues?, hv]
    | some v => cases hmore : fieldValues? read rest <;> simp [fieldValues?, hv, hmore, eq_comm]

theorem embedded?_of_ne {fields : List (Option String × Tree)}
    (h : fields.head?.map Prod.fst ≠ some (some embeddedKey)) : embedded? fields = none := by
  unfold embedded?
  split
  case h_1 key t rest =>
    rw [if_neg (by simpa using h)]
  case h_2 => rfl

theorem ne_of_embedded?_eq_none {fields : List (Option String × Tree)}
    (h : embedded? fields = none) : fields.head?.map Prod.fst ≠ some (some embeddedKey) := by
  cases fields with
  | nil => simp
  | cons field rest =>
    obtain ⟨key, t⟩ := field
    intro hkey
    obtain rfl : key = some embeddedKey := by simpa using hkey
    cases t <;> cases rest <;> simp [embedded?] at h

theorem keys_of_fieldValues? {fields : List (Option String × Tree)} {values : Fields}
    (h : fieldValues? read fields = some values) :
    (Fields.keys values).map some = fields.map Prod.fst := by
  induction fields generalizing values with
  | nil =>
    cases h
    rfl
  | cons field rest ih =>
    obtain ⟨k, v, more, hk, -, hmore, rfl⟩ := fieldValues?_cons_eq_some_iff.1 h
    have hrest := ih hmore
    simp only [Fields.keys, List.map_cons] at hrest ⊢
    rw [hrest, ← hk]

mutual

theorem embedsNothing_of_value? (hread : ∀ text v, read text = some v → v.EmbedsNothing) :
    ∀ (t : Tree) {v : Json}, t.value? read = some v → v.EmbedsNothing
  | .null, v, h => by
    cases h
    exact .null
  | .bool b, v, h => by
    cases h
    exact .bool b
  | .num n, v, h => by
    obtain ⟨n, -, rfl⟩ := Option.map_eq_some_iff.1 h
    exact .num n
  | .str s, v, h => by
    obtain ⟨s, -, rfl⟩ := Option.map_eq_some_iff.1 h
    exact .str s
  | .arr items, v, h => by
    obtain ⟨values, hvalues, rfl⟩ := Option.map_eq_some_iff.1 h
    exact .arr (embedsNothing_of_itemValues? hread items hvalues)
  | .obj fields, v, h => by
    rw [value?] at h
    split at h
    case h_1 =>
      obtain ⟨text, -, htext⟩ := Option.bind_eq_some_iff.1 h
      exact hread text v htext
    case h_2 hnone =>
      obtain ⟨values, hvalues, rfl⟩ := Option.map_eq_some_iff.1 h
      refine .obj (fun hkey => ne_of_embedded?_eq_none hnone ?_)
        (embedsNothing_of_fieldValues? hread fields hvalues)
      rw [← List.head?_map, ← keys_of_fieldValues? hvalues, List.head?_map, hkey]
      rfl

theorem embedsNothing_of_itemValues? (hread : ∀ text v, read text = some v → v.EmbedsNothing) :
    ∀ (items : List Tree) {values : List Json}, itemValues? read items = some values →
      ∀ v ∈ values, v.EmbedsNothing
  | [], values, h => by
    cases h
    simp
  | t :: rest, values, h => by
    obtain ⟨v, more, hv, hmore, rfl⟩ := itemValues?_cons_eq_some_iff.1 h
    exact List.forall_mem_cons.2 ⟨embedsNothing_of_value? hread t hv,
      embedsNothing_of_itemValues? hread rest hmore⟩

theorem embedsNothing_of_fieldValues? (hread : ∀ text v, read text = some v → v.EmbedsNothing) :
    ∀ (fields : List (Option String × Tree)) {values : Fields},
      fieldValues? read fields = some values → ∀ field ∈ values, field.2.EmbedsNothing
  | [], values, h => by
    cases h
    simp
  | (key, t) :: rest, values, h => by
    obtain ⟨k, v, more, -, hv, hmore, rfl⟩ := fieldValues?_cons_eq_some_iff.1 h
    exact List.forall_mem_cons.2 ⟨embedsNothing_of_value? hread t hv,
      embedsNothing_of_fieldValues? hread rest hmore⟩

end

end Tree

theorem embedsNothing_of_readWithin? {levels : Nat} {text : String} {v : Json}
    (h : readWithin? levels text = some v) : v.EmbedsNothing := by
  induction levels generalizing text v with
  | zero => cases h
  | succ levels ih =>
    obtain ⟨t, -, hv⟩ := Option.bind_eq_some_iff.1 h
    exact t.embedsNothing_of_value? (fun _ _ => ih) hv

/-! ## Values that come back -/

theorem fieldTrees_eq_map (fields : Fields) :
    fieldTrees fields = fields.map fun field => (some field.1, field.2.tree) := by
  induction fields with
  | nil => rfl
  | cons field rest ih => rw [fieldTrees, ih, List.map_cons]

variable {read : String → Option Json}

theorem itemValues?_itemTrees {items : List Json}
    (h : ∀ v ∈ items, v.tree.value? read = some v) :
    Tree.itemValues? read (itemTrees items) = some items := by
  induction items with
  | nil => rfl
  | cons v rest ih =>
    obtain ⟨hv, hrest⟩ := List.forall_mem_cons.1 h
    exact Tree.itemValues?_cons_eq_some_iff.2 ⟨v, rest, hv, ih hrest, rfl⟩

theorem fieldValues?_fieldTrees {fields : Fields}
    (h : ∀ field ∈ fields, field.2.tree.value? read = some field.2) :
    Tree.fieldValues? read (fieldTrees fields) = some fields := by
  induction fields with
  | nil => rfl
  | cons field rest ih =>
    obtain ⟨hfield, hrest⟩ := List.forall_mem_cons.1 h
    exact Tree.fieldValues?_cons_eq_some_iff.2 ⟨_, _, rest, rfl, hfield, ih hrest, rfl⟩

/-- The tree of a value shows the value again. -/
theorem value?_tree {v : Json} (hexact : v.IsExact) (hembeds : v.EmbedsNothing) :
    v.tree.value? read = some v := by
  induction hexact with
  | null | bool | str => rfl
  | int low high => rw [tree, Tree.value?, Number.reread?_int low high, Option.map_some]
  | arr _ ih =>
    cases hembeds with
    | arr items_embed =>
      rw [tree, Tree.value?, itemValues?_itemTrees fun v hv => ih v hv (items_embed v hv),
        Option.map_some]
  | @obj fields _ ih =>
    cases hembeds with
    | obj opens values_embed =>
      have hembedded : Tree.embedded? (fieldTrees fields) = none := by
        apply Tree.embedded?_of_ne
        intro hkey
        apply opens
        rw [fieldTrees_eq_map] at hkey
        cases fields with
        | nil => simp at hkey
        | cons field rest => simpa [Fields.keys] using hkey
      rw [tree, Tree.value?, hembedded]
      simp only
      rw [fieldValues?_fieldTrees fun field hfield =>
        ih field hfield (values_embed field hfield), Option.map_some]

theorem reread?_eq_self_iff {v : Json} (hexact : v.IsExact) (hkeys : v.HasDistinctKeys)
    (hdepth : v.depth < maxDepth) : v.reread? = some v ↔ v.EmbedsNothing := by
  rw [reread?, if_pos hdepth]
  constructor
  · intro h
    obtain ⟨w, hw, rfl⟩ := Option.map_eq_some_iff.1 h
    exact (Tree.embedsNothing_of_value? (fun _ _ => embedsNothing_of_readWithin?) _ hw).merged
  · intro hembeds
    rw [value?_tree hexact hembeds, Option.map_some, hkeys.merged_eq]

theorem depth_le_fieldsDepth {fields : Fields} {field : String × Json} (h : field ∈ fields) :
    field.2.depth ≤ fieldsDepth fields := by
  induction fields with
  | nil => cases h
  | cons first rest ih =>
    rw [fieldsDepth]
    rcases List.mem_cons.1 h with rfl | hrest
    · exact Nat.le_max_left _ _
    · exact Nat.le_trans (ih hrest) (Nat.le_max_right _ _)

/-! ## Values with the same text -/

theorem itemTrees_eq_map (items : List Json) : itemTrees items = items.map tree := by
  induction items with
  | nil => rfl
  | cons v rest ih => rw [itemTrees, ih, List.map_cons]

theorem eq_of_map_eq {α β : Type} {f : α → β} {l l' : List α}
    (hf : ∀ a ∈ l, ∀ b ∈ l', f a = f b → a = b) (h : l.map f = l'.map f) : l = l' := by
  induction l generalizing l' with
  | nil => exact (List.map_eq_nil_iff.1 h.symm).symm
  | cons a rest ih =>
    cases l' with
    | nil => cases h
    | cons b rest' =>
      rw [List.map_cons, List.map_cons, List.cons.injEq] at h
      rw [hf a (by simp) b (by simp) h.1,
        ih (fun c hc d hd => hf c (by simp [hc]) d (by simp [hd])) h.2]

theorem IsExact.eq_of_tree_eq {v w : Json} (hv : v.IsExact) (hw : w.IsExact)
    (h : v.tree = w.tree) : v = w := by
  induction hv generalizing w with
  | null => cases hw <;> cases h; rfl
  | bool b => cases hw <;> cases h; rfl
  | str s => cases hw <;> cases h; rfl
  | @int n low high =>
    cases hw with
    | @int n' low' high' =>
      simpa [tree, Number.reread?_int low high, Number.reread?_int low' high'] using h
    | _ => cases h
  | @arr items _ ih =>
    cases hw with
    | @arr items' items_exact =>
      rw [tree, tree, itemTrees_eq_map, itemTrees_eq_map, Tree.arr.injEq] at h
      rw [eq_of_map_eq (fun v hv w hw => ih v hv (items_exact w hw)) h]
    | _ => cases h
  | @obj fields _ ih =>
    cases hw with
    | @obj fields' values_exact =>
      rw [tree, tree, fieldTrees_eq_map, fieldTrees_eq_map, Tree.obj.injEq] at h
      rw [eq_of_map_eq (fun field hfield field' hfield' hsame => ?_) h]
      rw [Prod.mk.injEq, Option.some.injEq] at hsame
      exact Prod.ext hsame.1 (ih field hfield (values_exact field' hfield') hsame.2)
    | _ => cases h

/-- No two values have the same text, not even those that are not read back. -/
theorem text_inj {v w : Json} (hv : v.IsExact) (hw : w.IsExact) : v.text = w.text ↔ v = w := by
  refine ⟨fun h => hv.eq_of_tree_eq hw ?_, fun h => by rw [h]⟩
  have htree := ofText?_text v
  rw [h, ofText?_text w] at htree
  exact (Option.some.inj htree).symm

end Json

namespace Fields

theorem distinct_and_embedsNothing_of_parse? {text : String} {fields : Fields}
    (h : parse? text = some fields) :
    ∀ field ∈ fields, field.2.HasDistinctKeys ∧ field.2.EmbedsNothing := by
  unfold parse? at h
  split at h
  case h_1 trees _ =>
    obtain ⟨pairs, hpairs, rfl⟩ := Option.map_eq_some_iff.1 h
    intro field hfield
    have hmem := mem_ofList hfield
    rw [Json.mergedFields_eq_map] at hmem
    obtain ⟨pair, hpair, rfl⟩ := List.mem_map.1 hmem
    have hembeds := Json.Tree.embedsNothing_of_fieldValues?
      (fun _ _ => Json.embedsNothing_of_readWithin?) trees hpairs pair hpair
    exact ⟨Json.hasDistinctKeys_merged pair.2, hembeds.merged⟩
  case h_2 => cases h

end Fields
end FilterSql

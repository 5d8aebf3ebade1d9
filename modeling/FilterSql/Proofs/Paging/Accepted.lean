import FilterSql.Proofs.Json.ReadBack
import FilterSql.Proofs.Paging.Reading
import FilterSql.Proofs.Query.Values
import Mathlib.Data.List.Infix

/-!
# FilterSql.Proofs.Paging.Accepted

Which keys a page is asked for with. A key is a text from outside; it is accepted if it writes an
object with the columns of the ordering and with values that can be bound.

* `Fields.written?`: the object that a text writes, pair by pair.
* `SeekCursor.Suits`: the pairs that suit an ordering.
* `SeekCursor.suits_of_after`, `SeekCursor.Suits.exists_after`: they are those whose cursor is
  accepted.
* `SeekCursor.values_seekGroup`: which values a cursor binds, and in which order.
* `SeekPages.read_key_iff`: a page after a key.
* `SeekPages.read_key_boxed`: the texts of objects are not all read.
-/

namespace FilterSql

/-! ## Texts of objects -/

namespace Fields

/-- The fields of a text that must be an object, as they stand in it: keys may be repeated. A text
that is nested too deep is not read, nor is one with a part that has no value. -/
def written? (text : String) : Option (List (String × Json)) :=
  match Json.Tree.shallow? text with
  | some (.obj fields) => (Json.Tree.fieldValues? Json.read? fields).map Json.mergedFields
  | _ => none

theorem parse?_eq_written? (text : String) : parse? text = (written? text).map ofList := by
  unfold parse? written?
  cases Json.Tree.shallow? text with
  | none => rfl
  | some tree =>
    cases tree with
    | obj fields => exact (Option.map_map _ _ _).symm
    | _ => rfl

end Fields

namespace SeekCursor

theorem parse_eq_ok_iff {text : String} {c : SeekCursor} :
    parse text = .ok c ↔
      ∃ pairs, Fields.written? text = some pairs ∧ c = ⟨Fields.ofList pairs⟩ := by
  rw [parse, Fields.parse?_eq_written?]
  cases Fields.written? text with
  | none => simp
  | some pairs => simp [eq_comm]

/-! ## Pairs that suit an ordering -/

/-- The keys are the columns of the ordering, in any order and any number of times, and the last
value of each can be bound. -/
structure Suits (pairs : List (String × Json)) (ordering : OrderBy) : Prop where
  keys : ∀ name, name ∈ pairs.map Prod.fst ↔ name ∈ names ordering
  values : ∀ name ∈ names ordering, ∃ v, Fields.lastValue? pairs name = some v ∧
    v.isBindable = true

variable {ordering : OrderBy} {pairs : List (String × Json)}

theorem Suits.perm (h : Suits pairs ordering) (hdistinct : (names ordering).Nodup) :
    (Fields.keys (Fields.ofList pairs)).Perm (names ordering) := by
  refine (List.perm_ext_iff_of_nodup (Fields.nodup_keys_ofList pairs) hdistinct).2 fun name => ?_
  rw [← h.keys, Fields.ofList_eq_insertAll, Fields.mem_keys_insertAll]
  simp [Fields.keys]

theorem suits_of_after {group : Sql.Group} (hdistinct : (names ordering).Nodup)
    (h : after ⟨Fields.ofList pairs⟩ ordering = .ok group) : Suits pairs ordering := by
  obtain ⟨hfits, values, hbounds, -⟩ := after_eq_ok_iff.1 h
  obtain ⟨hsize, hall⟩ := fits_iff.1 hfits
  constructor
  · -- As many keys as columns, and every column among them: there is no room for another key.
    have hsub : names ordering ⊆ Fields.keys (Fields.ofList pairs) :=
      fun name hname => Fields.isSome_get?_iff.1 (hall name hname)
    have hlen : (Fields.keys (Fields.ofList pairs)).length ≤ (names ordering).length := by
      rw [Fields.keys, List.length_map, length_names]
      exact hsize.le
    have hperm := (hdistinct.subperm hsub).perm_of_length_le hlen
    intro name
    rw [hperm.mem_iff, Fields.ofList_eq_insertAll, Fields.mem_keys_insertAll]
    simp [Fields.keys]
  · intro name hname
    obtain ⟨v, hv, hb⟩ := bounds_isOk_iff.1 ⟨values, hbounds⟩ name hname
    exact ⟨v, (Fields.get?_ofList pairs name).symm.trans hv, hb⟩

theorem Suits.exists_after (h : Suits pairs ordering) (hdistinct : (names ordering).Nodup) :
    ∃ bound : String → Bound,
      after ⟨Fields.ofList pairs⟩ ordering =
        .ok (seekGroup ordering ((names ordering).map bound)) ∧
      ∀ name ∈ names ordering, ∃ v, Fields.lastValue? pairs name = some v ∧
        v.BoundAs (bound name) := by
  have hperm := h.perm hdistinct
  have hnodup := Fields.nodup_keys_ofList pairs
  have hmem (name : String) (v : Json) :
      (name, v) ∈ Fields.ofList pairs ↔ Fields.lastValue? pairs name = some v := by
    rw [← Fields.get?_eq_some_iff hnodup, Fields.get?_ofList]
  have hvalues : ∀ field ∈ Fields.ofList pairs, field.2.isBindable = true := by
    rintro ⟨name, v⟩ hfield
    have hname := hperm.mem_iff.1 (List.mem_map_of_mem hfield)
    obtain ⟨w, hw, hb⟩ := h.values name hname
    obtain rfl : v = w := Option.some.inj (((hmem name v).1 hfield).symm.trans hw)
    exact hb
  obtain ⟨bound, hafter, hbound⟩ := SeekCursor.exists_after hdistinct hperm hvalues
  refine ⟨bound, hafter, fun name hname => ?_⟩
  obtain ⟨v, hv, -⟩ := h.values name hname
  exact ⟨v, hv, hbound _ ((hmem name v).2 hv)⟩

/-! ## The values that are bound -/

theorem inits_eq_nil_cons (values : List Bound) : values.inits = [] :: values.inits.tail := by
  cases values with
  | nil => rfl
  | cons value rest => rw [List.inits_cons, List.tail_cons]

theorem values_branches (equal : List Sql.Clause) (pairs : List ((String × SortOrder) × Bound)) :
    (branches equal pairs).flatMap Sql.Group.values =
      (pairs.map Prod.snd).inits.tail.flatMap (Sql.Clause.valuesAll equal ++ ·) := by
  induction pairs generalizing equal with
  | nil => rfl
  | cons pair rest ih =>
    obtain ⟨⟨column, order⟩, value⟩ := pair
    have hvalues (op : Sql.Comparison) :
        Sql.Clause.valuesAll (equal ++ [compare op column value]) =
          Sql.Clause.valuesAll equal ++ [value] := by
      rw [Sql.Clause.valuesAll_append]
      rfl
    have hbranch : (Sql.Group.all (equal ++ [compare (later order) column value])).values =
        Sql.Clause.valuesAll equal ++ [value] := hvalues (later order)
    rw [branches, List.flatMap_cons, ih, hvalues, hbranch, List.map_cons, List.inits_cons,
      List.tail_cons, inits_eq_nil_cons (rest.map Prod.snd)]
    simp only [List.tail_cons, List.map_cons, List.flatMap_cons, List.flatMap_map,
      List.append_assoc, List.singleton_append]

/-- Each column brings the values of the columns before it once more, and its own. -/
theorem values_seekGroup {values : List Bound} (h : values.length = ordering.length) :
    (seekGroup ordering values).values = values.inits.flatten := by
  rw [seekGroup, foldl_add_values, values_branches, List.map_snd_zip h.le,
    inits_eq_nil_cons values]
  simp [Sql.Group.values, Sql.Group.any, Sql.Clause.valuesAll]

end SeekCursor

/-! ## Readings -/

namespace SeekPages

open SeekCursor (Suits names seekGroup)

variable {σ : Type} {p : SeekPages} {key : String}

/-- The query of the page behind some values. -/
def pageBehind (p : SeekPages) (values : List Bound) : SelectQuery :=
  { p.paged.query with limit := some p.paged.pageSize, offset := none }.andWhere
    (seekGroup p.ordering values)

theorem pageBehind_args (p : SeekPages) {values : List Bound}
    (h : values.length = p.ordering.length) (dialect : Dialect) :
    ((p.pageBehind values).statement dialect).args =
      (p.paged.query.source dialect).args ++ values.inits.flatten ++ [.count p.paged.pageSize] := by
  simp [pageBehind, SelectQuery.statement_args, SelectQuery.source_args, SelectQuery.andWhere,
    SeekCursor.values_seekGroup h]

theorem exists_request {pairs : List (String × Json)} (hdistinct : (names p.ordering).Nodup)
    (hpairs : Fields.written? key = some pairs) (hsuits : Suits pairs p.ordering) :
    ∃ bound : String → Bound,
      (∀ name ∈ names p.ordering, ∃ v, Fields.lastValue? pairs name = some v ∧
        v.BoundAs (bound name)) ∧
      p.request (some key) = .ok (p.pageBehind ((names p.ordering).map bound)) := by
  obtain ⟨bound, hafter, hbound⟩ := hsuits.exists_after hdistinct
  have hparse := SeekCursor.parse_eq_ok_iff.2 ⟨pairs, hpairs, rfl⟩
  exact ⟨bound, hbound, request_some_eq_ok_iff.2 ⟨_, _, hparse, hafter, rfl⟩⟩

theorem suits_of_request {q : SelectQuery} (hdistinct : (names p.ordering).Nodup)
    (h : p.request (some key) = .ok q) :
    ∃ pairs, Fields.written? key = some pairs ∧ Suits pairs p.ordering := by
  obtain ⟨c, group, hparse, hafter, -⟩ := request_some_eq_ok_iff.1 h
  obtain ⟨pairs, hpairs, rfl⟩ := SeekCursor.parse_eq_ok_iff.1 hparse
  exact ⟨pairs, hpairs, SeekCursor.suits_of_after hdistinct hafter⟩

/-- A page is asked for after a key if the key writes an object that suits the ordering. The last
value that it gives to each column is bound, and they follow the ordering. Any other key is refused,
and nothing is sent or remembered. -/
theorem read_key_iff (db : Database σ) (hcount : p.paged.resultCount ≠ 0)
    (hdistinct : (names p.ordering).Nodup) (key : String) (s : Session σ) :
    ((∃ statement, (read db (some key) false (p, s)).2.2.calls = s.calls ++ [.fetch statement]) ↔
      ∃ pairs, Fields.written? key = some pairs ∧ Suits pairs p.ordering) ∧
    (∀ pairs, Fields.written? key = some pairs → Suits pairs p.ordering →
      ∃ (bound : String → Bound) (statement : Statement),
        (∀ name ∈ names p.ordering, ∃ v, Fields.lastValue? pairs name = some v ∧
          v.BoundAs (bound name)) ∧
        statement = (p.pageBehind ((names p.ordering).map bound)).statement db.dialect ∧
        statement.args = (p.paged.query.source db.dialect).args ++
          ((names p.ordering).map bound).inits.flatten ++ [.count p.paged.pageSize] ∧
        (read db (some key) false (p, s)).2.2.calls = s.calls ++ [.fetch statement]) ∧
    ((¬ ∃ pairs, Fields.written? key = some pairs ∧ Suits pairs p.ordering) →
      ∃ e, e.isInvalidArgument = true ∧ read db (some key) false (p, s) = (.error e, p, s)) := by
  have hrefused : (¬ ∃ pairs, Fields.written? key = some pairs ∧ Suits pairs p.ordering) →
      ∃ e, e.isInvalidArgument = true ∧ read db (some key) false (p, s) = (.error e, p, s) := by
    intro hno
    cases hq : p.request (some key) with
    | error e => exact ⟨e, request_error hq, read_of_request_error db hcount hq s⟩
    | ok q => exact absurd (suits_of_request hdistinct hq) hno
  refine ⟨⟨?_, ?_⟩, ?_, hrefused⟩
  · rintro ⟨statement, hcalls⟩
    by_contra hno
    obtain ⟨e, -, hread⟩ := hrefused hno
    rw [hread] at hcalls
    simp at hcalls
  · rintro ⟨pairs, hpairs, hsuits⟩
    obtain ⟨bound, -, hrequest⟩ := exists_request hdistinct hpairs hsuits
    exact ⟨_, read_calls_of_request_ok db hcount hrequest s⟩
  · intro pairs hpairs hsuits
    obtain ⟨bound, hbound, hrequest⟩ := exists_request hdistinct hpairs hsuits
    have hlength : ((names p.ordering).map bound).length = p.ordering.length := by
      rw [List.length_map, SeekCursor.length_names]
    exact ⟨bound, _, hbound, rfl, p.pageBehind_args hlength _,
      read_calls_of_request_ok db hcount hrequest s⟩

/-! ### Items by name -/

def byName : OrderBy := [("main.name", .asc), ("main.id", .desc)]

def ofItemsByName : SeekPages :=
  ⟨⟨{ SelectQuery.ofTable "items" with orderBy := byName }, 1, 3, Nat.zero_lt_one⟩, byName, none,
    none, false⟩

/-- A key with the columns the other way round and with one of them twice. -/
def repeatedKey : String := "\x7b\"id\":9,\"name\":\"b\",\"id\":2\x7d"

def repeatedPairs : List (String × Json) :=
  [("id", .ofNat 9), ("name", .str "b"), ("id", .ofNat 2)]

theorem written?_repeatedKey : Fields.written? repeatedKey = some repeatedPairs := by
  have htokens : Json.Token.ofText? repeatedKey.toList =
      some [.openObj, .str (some "id"), .colon, .num (some (.int 9)), .comma,
        .str (some "name"), .colon, .str (some "b"), .comma,
        .str (some "id"), .colon, .num (some (.int 2)), .closeObj] := by
    decide +kernel
  rw [Fields.written?, Json.Tree.shallow?, htokens]
  rfl

theorem suits_repeatedPairs : Suits repeatedPairs byName := by
  have hnames : names byName = ["name", "id"] := by decide
  constructor
  · intro name
    rw [hnames]
    simp [repeatedPairs]
    tauto
  · rw [hnames]
    simp [repeatedPairs, Fields.lastValue?, Json.isBindable, Json.ofNat, Decimal.maxSigned64]

theorem read_key_repeated :
    ∃ statement, statement.args = [.text "b", .text "b", .int 2, .count 1] ∧
      (read (Script.database .sqlite) (some repeatedKey) false
        (ofItemsByName, .ofThree [])).2.2.calls = [.fetch statement] := by
  obtain ⟨bound, statement, hbound, -, hargs, hcalls⟩ :=
    (read_key_iff (p := ofItemsByName) (Script.database .sqlite) (by decide) (by decide)
      repeatedKey (.ofThree [])).2.1 _ written?_repeatedKey suits_repeatedPairs
  refine ⟨statement, ?_, hcalls⟩
  have hnames : names ofItemsByName.ordering = ["name", "id"] := by decide
  rw [hnames] at hargs hbound
  obtain ⟨_, hlast, hname⟩ := hbound "name" (by simp)
  obtain ⟨_, hlast', hid⟩ := hbound "id" (by simp)
  cases hlast
  cases hlast'
  rw [hargs, List.map_cons, List.map_cons, hname.unique (.text "b"),
    hid.unique (.int (by decide))]
  rfl

/-! ### A key that is nested too deep -/

/-- Objects one in the other, with the empty one in so many others. -/
def boxed : Nat → Json
  | 0 => .obj []
  | boxes + 1 => .obj [("in", boxed boxes)]

theorem depth_boxed (boxes : Nat) : (boxed boxes).depth = boxes + 1 := by
  induction boxes with
  | zero => rfl
  | succ boxes ih => simp [boxed, Json.depth, Json.fieldsDepth, ih]

theorem tree_boxed (boxes : Nat) : ∃ fields, (boxed boxes).tree = .obj fields := by
  cases boxes with
  | zero => exact ⟨_, rfl⟩
  | succ boxes => exact ⟨_, rfl⟩

def boxedKey : String := Fields.text [("id", boxed 126)]

theorem written?_boxedKey : Fields.written? boxedKey = none := by
  have hdepth : ¬ (Json.obj [("id", boxed 126)]).depth ≤ Json.maxDepth := by
    simp [Json.depth, Json.fieldsDepth, depth_boxed, Json.maxDepth]
  rw [Fields.written?, boxedKey, Fields.text, Json.shallow?_text, if_neg hdepth]

/-- The text of an object with just the column of the ordering, whose value is an object. -/
theorem read_key_boxed :
    ¬ ∀ (key : String) (fields : List (Option String × Json.Tree)),
      Json.Tree.ofText? key = some (.obj [(some "id", .obj fields)]) →
        ∃ statement,
          (read (Script.database .sqlite) (some key) false (ofItems, .ofThree [])).2.2.calls =
            [.fetch statement] := by
  intro hclaim
  obtain ⟨fields, hfields⟩ := tree_boxed 126
  have htree : Json.Tree.ofText? boxedKey = some (.obj [(some "id", .obj fields)]) := by
    rw [boxedKey, Fields.text, Json.ofText?_text, Json.tree, Json.fieldTrees, hfields]
    rfl
  obtain ⟨statement, hcalls⟩ := hclaim _ _ htree
  have hrefused := (read_key_iff (p := ofItems) (Script.database .sqlite) (by decide) (by decide)
    boxedKey (.ofThree [])).2.2
  obtain ⟨e, -, hread⟩ := hrefused (by simp [written?_boxedKey])
  rw [hread] at hcalls
  cases hcalls

end SeekPages
end FilterSql

import FilterSql.Proofs.Json.Lossless
import FilterSql.Proofs.Paging.Accepted
import FilterSql.Proofs.Paging.Resuming

/-!
# FilterSql.Proofs.Paging.RoundTrip

The token of a cursor, read again. The values come back from the token as they are, and the columns
in the order in which they were, unless an object in a value opens as those do which stand for the
value of another text. A token belongs to one cursor only.

* `SeekCursor.IsLossless`: cursors without floating-point numbers, nested no deeper than is read.
* `SeekCursor.parse_token_eq_self_iff`: which cursors come back.
* `SeekCursor.token_roundTrips`: those do, and tokens are told apart.
* `SeekCursor.token_loses_boxed`: a cursor of a row that does not come back.
-/

namespace FilterSql
namespace SeekCursor

/-- Where a cursor comes from: a row or a text. No object in a row has a key twice. -/
inductive IsBuilt : SeekCursor → Prop
  | row {row : Row} {columns : List String} {c : SeekCursor} (taken : ofRow row columns = .ok c)
      (distinct : ∀ field ∈ c.values, field.2.HasDistinctKeys) : IsBuilt c
  | text {text : String} {c : SeekCursor} (parsed : parse text = .ok c) : IsBuilt c

/-- A cursor whose token shows all of it. -/
structure IsLossless (c : SeekCursor) : Prop where
  built : c.IsBuilt
  values_exact : ∀ field ∈ c.values, field.2.IsExact
  shallow : (Json.obj c.values).depth ≤ 127

theorem distinct_and_embedsNothing_of_parse {text : String} {c : SeekCursor}
    (h : parse text = .ok c) :
    ∀ field ∈ c.values, field.2.HasDistinctKeys ∧ field.2.EmbedsNothing := by
  rw [parse] at h
  split at h
  case h_1 fields hfields =>
    cases h
    exact Fields.distinct_and_embedsNothing_of_parse? hfields
  case h_2 => cases h

theorem IsBuilt.nodup_keys {c : SeekCursor} (h : c.IsBuilt) : (Fields.keys c.values).Nodup := by
  cases h with
  | row taken =>
    obtain ⟨-, rfl⟩ := ofRow_eq_ok_iff.1 taken
    exact Fields.nodup_keys_ofList _
  | text parsed =>
    obtain ⟨pairs, -, rfl⟩ := parse_eq_ok_iff.1 parsed
    exact Fields.nodup_keys_ofList _

theorem IsBuilt.hasDistinctKeys {c : SeekCursor} (h : c.IsBuilt) :
    ∀ field ∈ c.values, field.2.HasDistinctKeys := by
  cases h with
  | row _ distinct => exact distinct
  | text parsed =>
    exact fun field hfield => (distinct_and_embedsNothing_of_parse parsed field hfield).1

/-- The cursors that come back are those whose values embed nothing. -/
theorem IsLossless.parse_token_eq_self_iff {c : SeekCursor} (h : c.IsLossless) :
    parse c.token = .ok c ↔ ∀ field ∈ c.values, field.2.EmbedsNothing := by
  rw [parse_token_eq_ok_iff_of_nodup h.built.nodup_keys, Fields.Reread, List.forall₂_same]
  refine forall₂_congr fun field hfield => ?_
  have hdepth : field.2.depth < Json.maxDepth :=
    Nat.lt_of_le_of_lt (Json.depth_le_fieldsDepth hfield) h.shallow
  rw [Json.reread?_eq_self_iff (h.values_exact field hfield) (h.built.hasDistinctKeys field hfield)
    hdepth]
  exact and_iff_right rfl

/-- A cursor is read back from its token, with its columns in the same order, exactly when no object
in its values opens with the key that embeds a text, as none does in what was read from a text. No
two cursors have the same token. -/
theorem token_roundTrips {c : SeekCursor} (h : c.IsLossless) :
    (parse c.token = .ok c ↔ ∀ field ∈ c.values, field.2.EmbedsNothing) ∧
      (∀ text, parse text = .ok c → parse c.token = .ok c) ∧
      ∀ d : SeekCursor, d.IsLossless → (d.token = c.token ↔ d = c) := by
  have hread := h.parse_token_eq_self_iff
  refine ⟨hread, fun text htext => hread.2 fun field hfield => ?_, fun d hd => ?_⟩
  · exact (distinct_and_embedsNothing_of_parse htext field hfield).2
  · have htext : d.token = c.token ↔ Json.obj d.values = Json.obj c.values :=
      Json.text_inj (.obj hd.values_exact) (.obj h.values_exact)
    rw [htext, Json.obj.injEq, SeekCursor.mk.injEq]

/-! ### A cursor of notes -/

/-- The least integer with a sign, in an object in which the keys are not in order. -/
def tags : Json :=
  .obj [("b", .arr [.null, .bool true]), ("a", .num (.int (-9223372036854775808)))]

/-- A quote, a backslash, a control character, a letter and a sign beyond 16 bits. -/
def note : Json := .str "\"\\\x01é😀"

/-- The greatest integer without a sign. -/
def lastId : Json := .num (.int 18446744073709551615)

def noteRow : Row := [("id", lastId), ("note", note), ("tags", tags)]

def byTags : SeekCursor := ⟨[("tags", tags), ("note", note), ("id", lastId)]⟩

def byNote : SeekCursor := ⟨[("note", note), ("tags", tags), ("id", lastId)]⟩

theorem exact_tags : tags.IsExact := by
  refine .obj (List.forall_mem_cons.2 ⟨.arr ?_, List.forall_mem_singleton.2 (.int ?_ ?_)⟩)
  · exact List.forall_mem_cons.2 ⟨.null, List.forall_mem_singleton.2 (.bool true)⟩
  · decide
  · decide

theorem distinct_tags : tags.HasDistinctKeys := by
  refine .obj (by decide) (List.forall_mem_cons.2 ⟨.arr ?_, List.forall_mem_singleton.2 (.num _)⟩)
  exact List.forall_mem_cons.2 ⟨.null, List.forall_mem_singleton.2 (.bool true)⟩

theorem embedsNothing_tags : tags.EmbedsNothing := by
  refine .obj (by decide) (List.forall_mem_cons.2 ⟨.arr ?_, List.forall_mem_singleton.2 (.num _)⟩)
  exact List.forall_mem_cons.2 ⟨.null, List.forall_mem_singleton.2 (.bool true)⟩

theorem exact_of_mem_noteRow : ∀ field ∈ noteRow, field.2.IsExact :=
  List.forall_mem_cons.2 ⟨.int (by decide) (by decide), List.forall_mem_cons.2
    ⟨.str _, List.forall_mem_singleton.2 exact_tags⟩⟩

theorem distinct_of_mem_noteRow : ∀ field ∈ noteRow, field.2.HasDistinctKeys :=
  List.forall_mem_cons.2 ⟨.num _, List.forall_mem_cons.2
    ⟨.str _, List.forall_mem_singleton.2 distinct_tags⟩⟩

theorem embedsNothing_of_mem_noteRow : ∀ field ∈ noteRow, field.2.EmbedsNothing :=
  List.forall_mem_cons.2 ⟨.num _, List.forall_mem_cons.2
    ⟨.str _, List.forall_mem_singleton.2 embedsNothing_tags⟩⟩

theorem token_roundTrips_byTags :
    parse byTags.token = .ok byTags ∧ byNote.token ≠ byTags.token := by
  have hlossless (columns : List String) {c : SeekCursor} (hc : ofRow noteRow columns = .ok c)
      (hmem : ∀ field ∈ c.values, field ∈ noteRow)
      (hdepth : (Json.obj c.values).depth ≤ 127) : c.IsLossless :=
    ⟨.row hc fun field hfield => distinct_of_mem_noteRow field (hmem field hfield),
      fun field hfield => exact_of_mem_noteRow field (hmem field hfield), hdepth⟩
  have hmem : ∀ field ∈ byTags.values, field ∈ noteRow := by simp [byTags, noteRow]
  have hbyTags : byTags.IsLossless := hlossless ["tags", "note", "id"] rfl hmem (by decide)
  have hbyNote : byNote.IsLossless :=
    hlossless ["note", "tags", "id"] rfl (by simp [byNote, noteRow]) (by decide)
  obtain ⟨hparse, -, hunique⟩ := token_roundTrips hbyTags
  refine ⟨hparse.2 fun field hfield => embedsNothing_of_mem_noteRow field (hmem field hfield),
    fun htoken => ?_⟩
  have hsame := (hunique byNote hbyNote).1 htoken
  simp [byNote, byTags] at hsame

/-! ### A cursor that is read back as another -/

/-- A row that shows an object with the text of a number under the key that embeds a text. -/
def boxedRow : Row := [("id", .obj [(Json.Tree.embeddedKey, .str "1")])]

def boxed : SeekCursor := ⟨boxedRow⟩

/-- The cursor of the row is built, but its token is read as the cursor of the number. -/
theorem token_loses_boxed : ofRow boxedRow ["id"] = .ok boxed ∧ boxed.IsLossless ∧
    parse boxed.token = .ok ⟨[("id", .num (.int 1))]⟩ ∧ parse boxed.token ≠ .ok boxed := by
  have hvalue : (Json.obj [(Json.Tree.embeddedKey, .str "1")]).IsExact :=
    .obj (List.forall_mem_singleton.2 (.str "1"))
  have hkeys : (Json.obj [(Json.Tree.embeddedKey, .str "1")]).HasDistinctKeys :=
    .obj (by simp [Fields.keys]) (List.forall_mem_singleton.2 (.str "1"))
  have hread : parse boxed.token = .ok ⟨[("id", .num (.int 1))]⟩ := by
    rw [parse_token_eq_ok_iff_of_nodup (by decide)]
    exact .cons ⟨rfl, rfl⟩ .nil
  have htaken : ofRow boxedRow ["id"] = .ok boxed := rfl
  refine ⟨htaken, ⟨.row htaken ?_, ?_, by decide⟩, hread, ?_⟩
  · exact List.forall_mem_singleton.2 hkeys
  · exact List.forall_mem_singleton.2 hvalue
  · rw [hread]
    simp [boxed, boxedRow]

end SeekCursor
end FilterSql

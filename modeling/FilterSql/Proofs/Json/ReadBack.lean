import FilterSql.Json.Parser
import FilterSql.Proofs.Json.Fields
import FilterSql.Proofs.Json.Tokens
import Mathlib.Data.List.Forall2

/-!
# FilterSql.Proofs.Json.ReadBack

Reading the text of a value. The text of any value is read as a tree, which differs from the value
in its numbers alone; whether the tree has a value again, and one that is not nested too deep, is
another question.

* `Json.tree`, `Json.depth`: the tree of a value, and how deep its text is nested.
* `Tree.shallow?_text`: the text of a value shows its tree.
* `Json.reread?`: what a value is read back as under a key.
* `Fields.parse?_text_eq_some_iff`: the fields of an object are read back one by one.
-/

namespace FilterSql
namespace Json

mutual

def tree : Json → Tree
  | .null => .null
  | .bool b => .bool b
  | .num n => .num n.reread?
  | .str s => .str (some s)
  | .arr items => .arr (itemTrees items)
  | .obj fields => .obj (fieldTrees fields)

def itemTrees : List Json → List Tree
  | [] => []
  | v :: rest => tree v :: itemTrees rest

def fieldTrees : List (String × Json) → List (Option String × Tree)
  | [] => []
  | (k, v) :: rest => (some k, tree v) :: fieldTrees rest

end

mutual

/-- The greatest number of arrays and objects that are open at once in the text of a value. -/
def depth : Json → Nat
  | .arr items => itemsDepth items + 1
  | .obj fields => fieldsDepth fields + 1
  | _ => 0

def itemsDepth : List Json → Nat
  | [] => 0
  | v :: rest => max (depth v) (itemsDepth rest)

def fieldsDepth : List (String × Json) → Nat
  | [] => 0
  | (_, v) :: rest => max (depth v) (fieldsDepth rest)

end

/-! ## The tokens of a value -/

theorem head_moreItemTokens (items : List Json) (rest : List Token) :
    ∀ t ∈ (moreItemTokens items ++ rest).head?, t.isNumber = false := by
  cases items <;> simp [moreItemTokens, Token.isNumber]

theorem head_moreFieldTokens (fields : List (String × Json)) (rest : List Token) :
    ∀ t ∈ (moreFieldTokens fields ++ rest).head?, t.isNumber = false := by
  cases fields with
  | nil => simp [moreFieldTokens, Token.isNumber]
  | cons field more => simp [moreFieldTokens, Token.isNumber]

theorem readable_cons {t : Token} {rest : List Token} (h : Token.Readable rest)
    (ht : t.hasValue = true) (hn : t.isNumber = false) : Token.Readable (t :: rest) :=
  h.cons ht fun hnumber => by rw [hn] at hnumber; cases hnumber

mutual

theorem readable_tokens : ∀ (v : Json) {rest : List Token}, Token.Readable rest →
    (∀ t ∈ rest.head?, t.isNumber = false) → Token.Readable (v.tokens ++ rest)
  | .null, _, h, _ | .bool _, _, h, _ | .str _, _, h, _ => readable_cons h rfl rfl
  | .num _, _, h, hhead => h.cons rfl fun _ => hhead
  | .arr [], _, h, _ | .obj [], _, h, _ => readable_cons (readable_cons h rfl rfl) rfl rfl
  | .arr (v :: more), rest, h, _ => by
    have hmore := readable_moreItemTokens more h
    have hv := readable_tokens v hmore (head_moreItemTokens more rest)
    simpa [tokens, itemTokens] using readable_cons hv rfl rfl
  | .obj ((k, v) :: more), rest, h, _ => by
    have hmore := readable_moreFieldTokens more h
    have hv := readable_tokens v hmore (head_moreFieldTokens more rest)
    have hkey : Token.Readable (.str (some k) :: .colon ::
        (v.tokens ++ (moreFieldTokens more ++ rest))) :=
      readable_cons (readable_cons hv rfl rfl) rfl rfl
    simpa [tokens, fieldTokens] using readable_cons hkey rfl rfl

theorem readable_moreItemTokens : ∀ (items : List Json) {rest : List Token},
    Token.Readable rest → Token.Readable (moreItemTokens items ++ rest)
  | [], _, h => readable_cons h rfl rfl
  | v :: more, rest, h => by
    have hmore := readable_moreItemTokens more h
    have hv := readable_tokens v hmore (head_moreItemTokens more rest)
    simpa [moreItemTokens] using readable_cons hv rfl rfl

theorem readable_moreFieldTokens : ∀ (fields : List (String × Json)) {rest : List Token},
    Token.Readable rest → Token.Readable (moreFieldTokens fields ++ rest)
  | [], _, h => readable_cons h rfl rfl
  | (k, v) :: more, rest, h => by
    have hmore := readable_moreFieldTokens more h
    have hv := readable_tokens v hmore (head_moreFieldTokens more rest)
    have hkey : Token.Readable (.str (some k) :: .colon ::
        (v.tokens ++ (moreFieldTokens more ++ rest))) :=
      readable_cons (readable_cons hv rfl rfl) rfl rfl
    simpa [moreFieldTokens] using readable_cons hkey rfl rfl

end

theorem ofText?_chars (v : Json) : Token.ofText? v.chars = some (v.tokens.map Token.reread) := by
  have h := readable_tokens v Token.readable_nil (by simp)
  rw [List.append_nil] at h
  exact Token.ofText?_flatMap_chars h

/-! ## The tree of a text -/

theorem run_itemOrEnd (v : Json) (stack : List Frame) (rest : List Token) :
    Machine.run (.itemOrEnd stack) (v.tokens.map Token.reread ++ rest) =
      Machine.run (.value (.items [] :: stack)) (v.tokens.map Token.reread ++ rest) := by
  cases v <;> rfl

mutual

theorem run_tokens : ∀ (v : Json) (stack : List Frame) (rest : List Token),
    Machine.run (.value stack) (v.tokens.map Token.reread ++ rest) =
      Machine.run (.after v.tree stack) rest
  | .null, _, _ | .bool _, _, _ | .str _, _, _ | .num _, _, _ => rfl
  | .arr [], _, _ | .obj [], _, _ => rfl
  | .arr (v :: more), stack, rest => by
    have hv := run_tokens v (.items [] :: stack)
      ((moreItemTokens more).map Token.reread ++ rest)
    have hmore := run_moreItemTokens more [] stack v.tree rest
    show Machine.run (.itemOrEnd stack)
      ((v.tokens ++ moreItemTokens more).map Token.reread ++ rest) = _
    rw [List.map_append, List.append_assoc, run_itemOrEnd, hv, hmore]
    rfl
  | .obj ((k, v) :: more), stack, rest => by
    have hv := run_tokens v (.fields [] (some k) :: stack)
      ((moreFieldTokens more).map Token.reread ++ rest)
    have hmore := run_moreFieldTokens more [] (some k) stack v.tree rest
    show Machine.run (.value (.fields [] (some k) :: stack))
      ((v.tokens ++ moreFieldTokens more).map Token.reread ++ rest) = _
    rw [List.map_append, List.append_assoc, hv, hmore]
    rfl

theorem run_moreItemTokens : ∀ (items : List Json) (done : List Tree) (stack : List Frame)
    (t : Tree) (rest : List Token),
    Machine.run (.after t (.items done :: stack))
        ((moreItemTokens items).map Token.reread ++ rest) =
      Machine.run (.after (.arr ((t :: done).reverse ++ itemTrees items)) stack) rest
  | [], done, stack, t, rest => by
    rw [itemTrees, List.append_nil]
    rfl
  | v :: more, done, stack, t, rest => by
    have hv := run_tokens v (.items (t :: done) :: stack)
      ((moreItemTokens more).map Token.reread ++ rest)
    have hmore := run_moreItemTokens more (t :: done) stack v.tree rest
    show Machine.run (.value (.items (t :: done) :: stack))
      ((v.tokens ++ moreItemTokens more).map Token.reread ++ rest) = _
    rw [List.map_append, List.append_assoc, hv, hmore, itemTrees]
    simp

theorem run_moreFieldTokens : ∀ (fields : List (String × Json))
    (done : List (Option String × Tree)) (key : Option String) (stack : List Frame) (t : Tree)
    (rest : List Token),
    Machine.run (.after t (.fields done key :: stack))
        ((moreFieldTokens fields).map Token.reread ++ rest) =
      Machine.run (.after (.obj (((key, t) :: done).reverse ++ fieldTrees fields)) stack) rest
  | [], done, key, stack, t, rest => by
    rw [fieldTrees, List.append_nil]
    rfl
  | (k, v) :: more, done, key, stack, t, rest => by
    have hv := run_tokens v (.fields ((key, t) :: done) (some k) :: stack)
      ((moreFieldTokens more).map Token.reread ++ rest)
    have hmore := run_moreFieldTokens more ((key, t) :: done) (some k) stack v.tree rest
    show Machine.run (.value (.fields ((key, t) :: done) (some k) :: stack))
      ((v.tokens ++ moreFieldTokens more).map Token.reread ++ rest) = _
    rw [List.map_append, List.append_assoc, hv, hmore, fieldTrees]
    simp

end

theorem ofTokens?_tokens (v : Json) :
    Tree.ofTokens? (v.tokens.map Token.reread) = some v.tree := by
  have h := run_tokens v [] []
  rw [List.append_nil] at h
  rw [Tree.ofTokens?, h]
  rfl

theorem ofText?_text (v : Json) : Tree.ofText? v.text = some v.tree := by
  rw [Tree.ofText?, text, String.toList_ofList, ofText?_chars, Option.bind_some, ofTokens?_tokens]

/-! ## How deep a text is nested -/

theorem deepest_map_reread (opened most : Nat) (tokens : List Token) :
    Token.deepest opened most (tokens.map Token.reread) = Token.deepest opened most tokens := by
  induction tokens generalizing opened most with
  | nil => rfl
  | cons t rest ih =>
    cases t with
    | num n => cases n <;> exact ih _ _
    | _ => exact ih _ _

mutual

theorem deepest_tokens : ∀ (v : Json) (opened most : Nat) (rest : List Token),
    opened ≤ most → Token.deepest opened most (v.tokens ++ rest) =
      Token.deepest opened (max most (opened + v.depth)) rest
  | .null, _, _, _, h | .bool _, _, _, _, h | .str _, _, _, _, h | .num _, _, _, _, h => by
    simp only [depth, Nat.add_zero, Nat.max_eq_left h]
    rfl
  | .arr [], opened, most, rest, _ | .obj [], opened, most, rest, _ => rfl
  | .arr (v :: more), opened, most, rest, h => by
    have hv := deepest_tokens v (opened + 1) (max most (opened + 1)) (moreItemTokens more ++ rest)
      (by omega)
    have hmore := deepest_moreItemTokens more opened
      (max (max most (opened + 1)) (opened + 1 + v.depth)) rest (by omega)
    show Token.deepest (opened + 1) (max most (opened + 1))
      ((v.tokens ++ moreItemTokens more) ++ rest) = _
    rw [List.append_assoc, hv, hmore, depth, itemsDepth]
    congr 1
    omega
  | .obj ((k, v) :: more), opened, most, rest, h => by
    have hv := deepest_tokens v (opened + 1) (max most (opened + 1)) (moreFieldTokens more ++ rest)
      (by omega)
    have hmore := deepest_moreFieldTokens more opened
      (max (max most (opened + 1)) (opened + 1 + v.depth)) rest (by omega)
    show Token.deepest (opened + 1) (max most (opened + 1))
      ((v.tokens ++ moreFieldTokens more) ++ rest) = _
    rw [List.append_assoc, hv, hmore, depth, fieldsDepth]
    congr 1
    omega

theorem deepest_moreItemTokens : ∀ (items : List Json) (opened most : Nat) (rest : List Token),
    opened + 1 ≤ most → Token.deepest (opened + 1) most (moreItemTokens items ++ rest) =
      Token.deepest opened (max most (opened + 1 + itemsDepth items)) rest
  | [], opened, most, rest, h => by
    simp only [itemsDepth, Nat.add_zero, Nat.max_eq_left h]
    rfl
  | v :: more, opened, most, rest, h => by
    have hv := deepest_tokens v (opened + 1) most (moreItemTokens more ++ rest) h
    have hmore := deepest_moreItemTokens more opened (max most (opened + 1 + v.depth)) rest
      (by omega)
    show Token.deepest (opened + 1) most ((v.tokens ++ moreItemTokens more) ++ rest) = _
    rw [List.append_assoc, hv, hmore, itemsDepth]
    congr 1
    omega

theorem deepest_moreFieldTokens : ∀ (fields : List (String × Json)) (opened most : Nat)
    (rest : List Token), opened + 1 ≤ most →
    Token.deepest (opened + 1) most (moreFieldTokens fields ++ rest) =
      Token.deepest opened (max most (opened + 1 + fieldsDepth fields)) rest
  | [], opened, most, rest, h => by
    simp only [fieldsDepth, Nat.add_zero, Nat.max_eq_left h]
    rfl
  | (k, v) :: more, opened, most, rest, h => by
    have hv := deepest_tokens v (opened + 1) most (moreFieldTokens more ++ rest) h
    have hmore := deepest_moreFieldTokens more opened (max most (opened + 1 + v.depth)) rest
      (by omega)
    show Token.deepest (opened + 1) most ((v.tokens ++ moreFieldTokens more) ++ rest) = _
    rw [List.append_assoc, hv, hmore, fieldsDepth]
    congr 1
    omega

end

/-- The text of a value shows its tree, unless it is nested too deep. -/
theorem shallow?_text (v : Json) :
    Tree.shallow? v.text = if v.depth ≤ maxDepth then some v.tree else none := by
  have hdeep : Token.deepest 0 0 v.tokens = v.depth := by
    have h := deepest_tokens v 0 0 [] (Nat.le_refl 0)
    rw [List.append_nil] at h
    rw [h, Token.deepest]
    omega
  rw [Tree.shallow?, text, String.toList_ofList, ofText?_chars]
  simp only [deepest_map_reread, hdeep, ofTokens?_tokens]

/-! ## Values that come back -/

/-- What a value is read back as under a key: none if it is nested too deep there, or if a part of
it has no value. -/
def reread? (v : Json) : Option Json :=
  if v.depth < maxDepth then (v.tree.value? read?).map merged else none

theorem reread?_str (s : String) : (Json.str s).reread? = some (.str s) := rfl

theorem reread?_bool (b : Bool) : (Json.bool b).reread? = some (.bool b) := rfl

theorem reread?_num (n : Number) : (Json.num n).reread? = n.reread?.map .num := by
  show (n.reread?.map Json.num).map merged = n.reread?.map Json.num
  cases n.reread? <;> rfl

theorem reread?_arr {items : List Json} {w : Json} (h : (Json.arr items).reread? = some w) :
    ∃ others, w = .arr others := by
  rw [reread?] at h
  split at h
  · obtain ⟨v, hv, rfl⟩ := Option.map_eq_some_iff.1 h
    obtain ⟨others, -, rfl⟩ := Option.map_eq_some_iff.1 hv
    exact ⟨mergedItems others, rfl⟩
  · cases h

theorem depth_lt_of_reread? {v w : Json} (h : v.reread? = some w) : v.depth < maxDepth := by
  rw [reread?] at h
  split at h
  · assumption
  · cases h

end Json

/-! ## Fields that come back -/

namespace Fields

/-- Fields with the values as which theirs are read back. -/
def Reread (fields values : Fields) : Prop :=
  List.Forall₂ (fun field value => value.1 = field.1 ∧ field.2.reread? = some value.2) fields values

theorem Reread.depth_lt {fields values : Fields} (h : Reread fields values) :
    Json.fieldsDepth fields < Json.maxDepth := by
  induction h with
  | nil => exact Nat.zero_lt_succ _
  | cons hfield _ ih => exact Nat.max_lt.2 ⟨Json.depth_lt_of_reread? hfield.2, ih⟩

theorem Reread.keys_eq {fields values : Fields} (h : Reread fields values) :
    keys values = keys fields := by
  induction h with
  | nil => rfl
  | cons hfield _ ih =>
    simp only [keys, List.map_cons] at ih ⊢
    rw [hfield.1, ih]

theorem Reread.get?_eq {fields values : Fields} (h : Reread fields values) (key : String) :
    get? values key = (get? fields key).bind Json.reread? := by
  induction h with
  | nil => rfl
  | @cons field value more others hfield _ ih =>
    obtain ⟨k, v⟩ := field
    obtain ⟨k', w⟩ := value
    obtain ⟨rfl, hr⟩ : k' = k ∧ v.reread? = some w := hfield
    by_cases hk : k' = key
    · simp [get?, hk, hr]
    · simpa [get?, hk] using ih

theorem fieldValues?_fieldTrees {fields values : Fields}
    (hd : Json.fieldsDepth fields < Json.maxDepth) :
    (Json.Tree.fieldValues? Json.read? (Json.fieldTrees fields)).map Json.mergedFields =
      some values ↔ Reread fields values := by
  induction fields generalizing values with
  | nil => simp [Json.fieldTrees, Json.Tree.fieldValues?, Json.mergedFields, Reread, eq_comm]
  | cons field rest ih =>
    obtain ⟨k, v⟩ := field
    obtain ⟨hv, hrest⟩ := Nat.max_lt.1 hd
    have hread : v.reread? = (v.tree.value? Json.read?).map Json.merged := if_pos hv
    have hih := fun more => @ih more hrest
    rw [Reread, List.forall₂_cons_left_iff]
    simp only [Reread] at hih
    simp only [← hih, hread, Json.fieldTrees, Json.Tree.fieldValues?]
    cases v.tree.value? Json.read? with
    | none => simp
    | some w =>
      cases Json.Tree.fieldValues? Json.read? (Json.fieldTrees rest) with
      | none => simp
      | some more =>
        simp only [Option.map_some, Option.some.injEq, Json.mergedFields]
        constructor
        · rintro rfl
          exact ⟨(k, w.merged), Json.mergedFields more, ⟨rfl, rfl⟩, rfl, rfl⟩
        · rintro ⟨⟨k', w'⟩, more', ⟨rfl, rfl⟩, rfl, rfl⟩
          rfl

theorem parse?_text_eq_some_iff {fields back : Fields} :
    Fields.parse? fields.text = some back ↔
      ∃ values, Reread fields values ∧ back = Fields.ofList values := by
  have htext : Json.Tree.shallow? fields.text =
      if Json.fieldsDepth fields < Json.maxDepth then some (.obj (Json.fieldTrees fields))
      else none := Json.shallow?_text (.obj fields)
  rw [Fields.parse?, htext]
  by_cases hd : Json.fieldsDepth fields < Json.maxDepth
  · simp only [if_pos hd, ← fieldValues?_fieldTrees hd]
    cases Json.Tree.fieldValues? Json.read? (Json.fieldTrees fields) <;> simp [eq_comm]
  -- A text that is nested too deep is not read at all, and one of its values is too deep.
  · simp only [if_neg hd]
    constructor
    · intro h
      cases h
    · rintro ⟨values, hvalues, -⟩
      exact absurd hvalues.depth_lt hd

end Fields
end FilterSql

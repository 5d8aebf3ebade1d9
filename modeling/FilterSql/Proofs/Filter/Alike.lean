import Mathlib.Data.List.Forall2
import FilterSql.Proofs.Filter.Bindable
import FilterSql.Proofs.Filter.Conditions
import FilterSql.Proofs.Query.Erased

/-!
# FilterSql.Proofs.Filter.Alike

Filters whose values are of the same shape compile to conditions that are the same up to values.

* `Json.SameShape`: NULL and NULL, lists of one length, or two other values.
* `Alike`: two outcomes that agree, unless one of them is a refusal.
* `compile_alike`: what is made of filters of the same shape.
-/

namespace FilterSql

/-! ## Shapes -/

inductive Json.SameShape : Json → Json → Prop
  | null : SameShape .null .null
  | arr {items items' : List Json} (length : items.length = items'.length) :
    SameShape (.arr items) (.arr items')
  | scalar {v v' : Json} (left : v.isScalar = true) (right : v'.isScalar = true) : SameShape v v'

theorem Json.isNull_of_isScalar {v : Json} (h : v.isScalar = true) : v.isNull = false := by
  cases v with
  | null => cases h
  | _ => rfl

theorem Json.SameShape.isNull_eq {v v' : Json} (h : v.SameShape v') : v.isNull = v'.isNull := by
  cases h with
  | null => rfl
  | arr _ => rfl
  | scalar hv hv' => rw [isNull_of_isScalar hv, isNull_of_isScalar hv']

/-- The same keys in the same order, with values of the same shape. -/
def Fields.SameShape : Fields → Fields → Prop :=
  List.Forall₂ fun field field' => field.1 = field'.1 ∧ field.2.SameShape field'.2

theorem Fields.SameShape.isEmpty_eq {fields fields' : Fields} (h : SameShape fields fields') :
    fields.isEmpty = fields'.isEmpty := by
  cases h <;> rfl

/-! ## Outcomes -/

/-- An argument that is rejected, or a statement that cannot even be sent. -/
def Error.isRefusal (e : Error) : Bool := e.isInvalidArgument || e.isFatal

theorem Error.isRefusal_of_isInvalidArgument {e : Error} (h : e.isInvalidArgument = true) :
    e.isRefusal = true := by
  simp [isRefusal, h]

theorem Error.isRefusal_of_isFatal {e : Error} (h : e.isFatal = true) : e.isRefusal = true := by
  simp [isRefusal, h]

/-- Two outcomes that agree: both go wrong, or neither does. Only a refusal excuses from it. -/
inductive Alike {α β : Type} (R : α → β → Prop) : Except Error α → Except Error β → Prop
  | ok {a : α} {b : β} (related : R a b) : Alike R (.ok a) (.ok b)
  | errors (e e' : Error) : Alike R (.error e) (.error e')
  | left {e : Error} (refused : e.isRefusal = true) (x' : Except Error β) : Alike R (.error e) x'
  | right {e : Error} (refused : e.isRefusal = true) (x : Except Error α) : Alike R x (.error e)

namespace Alike

theorem bind {α β γ δ : Type} {R : α → β → Prop} {T : γ → δ → Prop} {x : Except Error α}
    {x' : Except Error β} {f : α → Except Error γ} {f' : β → Except Error δ} (h : Alike R x x')
    (hf : ∀ a b, R a b → Alike T (f a) (f' b)) : Alike T (x >>= f) (x' >>= f') := by
  cases h with
  | ok hab => exact hf _ _ hab
  | errors e e' => exact .errors e e'
  | left he x' => exact .left he _
  | right he x => exact .right he _

/-- Outcomes that go wrong only by a refusal need to agree only if neither does. -/
theorem of_refusals {α β : Type} {R : α → β → Prop} {x : Except Error α} {x' : Except Error β}
    (h : ∀ e, x = .error e → e.isRefusal = true) (h' : ∀ e, x' = .error e → e.isRefusal = true)
    (hok : ∀ a b, x = .ok a → x' = .ok b → R a b) : Alike R x x' := by
  cases x with
  | error e => exact .left (h e rfl) x'
  | ok a =>
    cases x' with
    | error e' => exact .right (h' e' rfl) _
    | ok b => exact .ok (hok a b rfl rfl)

theorem of_rejections {α β : Type} {R : α → β → Prop} {x : Except Error α}
    {x' : Except Error β} (h : ∀ {e}, x = .error e → e.isInvalidArgument = true)
    (h' : ∀ {e}, x' = .error e → e.isInvalidArgument = true)
    (hok : ∀ a b, x = .ok a → x' = .ok b → R a b) : Alike R x x' :=
  of_refusals (fun _ he => Error.isRefusal_of_isInvalidArgument (h he))
    (fun _ he => Error.isRefusal_of_isInvalidArgument (h' he)) hok

end Alike

/-! ## Values -/

namespace Bound

theorem ofJson_alike (column : String) (v v' : Json) :
    Alike (fun b b' => b.erased = b'.erased) (ofJson column v) (ofJson column v') :=
  .of_rejections ofJson_error ofJson_error fun _ _ _ _ => rfl

theorem erased_of_ofItems_ok {column : String} {items : List Json} {values : List Bound}
    (h : ofItems column items = .ok values) :
    values.map erased = items.map fun _ => .now := by
  induction items generalizing values with
  | nil => cases h; rfl
  | cons v rest ih =>
    rw [ofItems_cons] at h
    obtain ⟨value, -, h⟩ := bind_eq_ok h
    obtain ⟨more, hmore, h⟩ := bind_eq_ok h
    cases h
    rw [List.map_cons, List.map_cons, ih hmore]
    rfl

theorem ofCell_of_not_null (column : String) {v : Json} (h : v.isNull = false) :
    ofCell column v = (do
      let value ← ofJson column v
      .ok (some value)) := by
  cases v with
  | null => cases h
  | _ => simp only [ofCell]; cases ofJson column _ <;> rfl

theorem ofCell_alike (column : String) {v v' : Json} (h : v.SameShape v') :
    Alike (fun b b' => b.map erased = b'.map erased) (ofCell column v) (ofCell column v') := by
  by_cases hv : v.isNull = true
  · cases h with
    | null => exact .ok rfl
    | arr _ => cases hv
    | scalar hs _ => rw [Json.isNull_of_isScalar hs] at hv; cases hv
  · rw [Bool.not_eq_true] at hv
    rw [ofCell_of_not_null column hv, ofCell_of_not_null column (h.isNull_eq ▸ hv)]
    exact Alike.bind (ofJson_alike column v v') fun _ _ _ => .ok rfl

end Bound

/-! ## Conditions -/

structure Condition.SameShape (c c' : Condition) : Prop where
  column : c.column = c'.column
  operator : c.operator = c'.operator
  value : c.value.SameShape c'.value

namespace Condition

theorem SameShape.needsNullability_eq {c c' : Condition} (h : c.SameShape c') :
    c.needsNullability = c'.needsNullability := h.value.isNull_eq

theorem parse_alike (key : String) {v v' : Json} (h : v.SameShape v') :
    Alike SameShape (parse key v) (parse key v') := by
  unfold parse
  rcases Operator.splitKey key with ⟨column, op⟩
  by_cases hc : column.isEmpty = true
  · simp only [hc, if_true]
    exact .errors _ _
  · simp only [hc, if_false, Bool.false_eq_true]
    exact .ok ⟨rfl, rfl, h⟩

def equalityOutline (negated : Bool) : Json → Sql.Test
  | .null => .null negated
  | .arr items => .member negated (items.map fun _ => .now)
  | _ => .compare (if negated then .ne else .eq) .now

/-- The test of a condition, up to the values. -/
def outline (c : Condition) : Sql.Test :=
  match c.operator with
  | .eq => equalityOutline false c.value
  | .ne => equalityOutline true c.value
  | .lt => .compare .lt .now
  | .le => .compare .le .now
  | .gt => .compare .gt .now
  | .ge => .compare .ge .now
  | .like => .like false ""
  | .notLike => .like true ""
  | .between => .between false .now .now
  | .notBetween => .between true .now .now

theorem equalityOutline_of_scalar (negated : Bool) {v : Json} (h : v.isScalar = true) :
    equalityOutline negated v = .compare (if negated then .ne else .eq) .now := by
  cases v <;> first | rfl | cases h

theorem equalityOutline_congr (negated : Bool) {v v' : Json} (h : v.SameShape v') :
    equalityOutline negated v = equalityOutline negated v' := by
  cases h with
  | null => rfl
  | arr hlen => simp only [equalityOutline, List.map_const', hlen]
  | scalar hv hv' =>
    rw [equalityOutline_of_scalar negated hv, equalityOutline_of_scalar negated hv']

theorem SameShape.outline_eq {c c' : Condition} (h : c.SameShape c') : c.outline = c'.outline := by
  unfold outline
  rw [← h.operator, equalityOutline_congr false h.value, equalityOutline_congr true h.value]

/-- A test of this outline, or a rejected argument. -/
def Fills (outline : Sql.Test) : Except Error Sql.Test → Prop
  | .ok t => t.erased = outline
  | .error e => e.isInvalidArgument = true

theorem fills_compare (column : String) (v : Json) (op : Sql.Comparison) :
    Fills (.compare op .now) (do
      let value ← Bound.ofJson column v
      .ok (.compare op value)) := by
  cases hb : Bound.ofJson column v with
  | error e => exact Bound.ofJson_error hb
  | ok value => exact rfl

theorem fills_equality (known : Option TableColumns) (c : Condition) (negated : Bool) :
    Fills (equalityOutline negated c.value) (c.equality known negated) := by
  cases hv : c.value with
  | null =>
    simp only [equality, hv]
    split <;> exact rfl
  | arr items =>
    simp only [equality, hv]
    cases hb : Bound.ofItems c.column items with
    | error e => exact Bound.ofItems_error hb
    | ok values =>
      show Sql.Test.member negated (values.map Bound.erased) = .member negated _
      rw [Bound.erased_of_ofItems_ok hb]
  | _ =>
    have hs : c.value.isScalar = true := by rw [hv]; rfl
    rw [equality_of_scalar known hs]
    exact fills_compare c.column c.value _

theorem fills_order (c : Condition) (op : Sql.Comparison) :
    Fills (.compare op .now) (c.order op) := by
  cases hv : c.value with
  | null => simp only [order, hv]; exact rfl
  | arr items => simp only [order, hv]; exact rfl
  | _ =>
    have hs : c.value.isScalar = true := by rw [hv]; rfl
    rw [order_of_scalar hs]
    exact fills_compare c.column c.value _

theorem fills_pattern (c : Condition) (negated : Bool) :
    Fills (.like negated "") (c.pattern negated) := by
  cases hv : c.value <;> simp only [pattern, hv] <;> exact rfl

theorem fills_range (c : Condition) (negated : Bool) :
    Fills (.between negated .now .now) (c.range negated) := by
  unfold range
  split
  · cases hl : Bound.ofJson c.column _ with
    | error e => exact Bound.ofJson_error hl
    | ok low =>
      simp only
      cases hh : Bound.ofJson c.column _ with
      | error e => exact Bound.ofJson_error hh
      | ok high => exact rfl
  · exact rfl

theorem fills_test (known : Option TableColumns) (c : Condition) :
    Fills c.outline (c.test known) := by
  rcases h : c.operator <;> simp only [test, outline, h]
  case eq => exact fills_equality known c false
  case ne => exact fills_equality known c true
  case like => exact fills_pattern c false
  case notLike => exact fills_pattern c true
  case between => exact fills_range c false
  case notBetween => exact fills_range c true
  all_goals exact fills_order c _

theorem test_alike (known : Option TableColumns) {c c' : Condition} (h : c.SameShape c') :
    Alike (fun t t' => t.erased = t'.erased) (c.test known) (c'.test known) := by
  have hc := fills_test known c
  have hc' := fills_test known c'
  refine .of_rejections (fun he => ?_) (fun he => ?_) fun t t' ht ht' => ?_
  · rw [he] at hc
    exact hc
  · rw [he] at hc'
    exact hc'
  · rw [ht] at hc
    rw [ht'] at hc'
    exact (hc.trans h.outline_eq).trans hc'.symm

theorem atom_alike (known : Option TableColumns) (target : ColumnTarget) {c c' : Condition}
    (h : c.SameShape c') :
    Alike (fun a a' => a.erased = a'.erased) (c.atom known target) (c'.atom known target) := by
  have hatom : ∀ c : Condition, c.atom known target = (do
      let test ← c.test known
      .ok ⟨ColumnRef.of target c.column, test⟩) := by
    intro c
    unfold atom
    cases c.test known <;> rfl
  rw [hatom, hatom, h.column]
  refine Alike.bind (test_alike known h) fun t t' ht => .ok ?_
  show (⟨_, t.erased⟩ : Sql.Atom) = ⟨_, t'.erased⟩
  rw [ht]

end Condition

/-! ## Filters -/

namespace Filter

theorem conditions_cons (field : String × Json) (rest : Filter) :
    conditions (field :: rest) = (do
      let c ← Condition.parse field.1 field.2
      let cs ← conditions rest
      .ok (c :: cs)) := by
  rw [conditions]
  cases Condition.parse field.1 field.2 with
  | error e => rfl
  | ok c => cases conditions rest <;> rfl

theorem conditions_alike {filter filter' : Filter} (h : Fields.SameShape filter filter') :
    Alike (List.Forall₂ Condition.SameShape) (conditions filter) (conditions filter') := by
  induction h with
  | nil => exact .ok .nil
  | @cons field field' rest rest' hfield _ ih =>
    rw [conditions_cons, conditions_cons, ← hfield.1]
    refine Alike.bind (Condition.parse_alike field.1 hfield.2) fun c c' hc => ?_
    refine Alike.bind ih fun cs cs' hcs => ?_
    exact .ok (.cons hc hcs)

end Filter

theorem ParamNames.assign_erased (used : ParamNames) (base : String) (op : Operator)
    (t : Sql.Test) :
    (used.assign base op t.erased).1.map NamedParam.erased =
        (used.assign base op t).1.map NamedParam.erased ∧
      (used.assign base op t.erased).2 = (used.assign base op t).2 := by
  cases t with
  -- All values of a list go under one name, so only their number could matter.
  | member negated values =>
    refine ⟨?_, rfl⟩
    simp only [assign, Sql.Test.erased, NamedParam.erased, List.map_cons, List.map_nil,
      List.map_map]
    rfl
  | _ => exact ⟨rfl, rfl⟩

theorem ParamNames.assign_congr (used : ParamNames) (base : String) (op : Operator)
    {t t' : Sql.Test} (h : t.erased = t'.erased) :
    (used.assign base op t).1.map NamedParam.erased =
        (used.assign base op t').1.map NamedParam.erased ∧
      (used.assign base op t).2 = (used.assign base op t').2 := by
  have ht := used.assign_erased base op t
  have ht' := used.assign_erased base op t'
  rw [← h] at ht'
  exact ⟨ht.1.symm.trans ht'.1, ht.2.symm.trans ht'.2⟩

def CompiledCondition.AlikeAll (compiled compiled' : List CompiledCondition) : Prop :=
  compiled.map CompiledCondition.erased = compiled'.map CompiledCondition.erased

theorem CompiledCondition.AlikeAll.eq {compiled compiled' : List CompiledCondition}
    (h : AlikeAll compiled compiled') :
    compiled.map CompiledCondition.erased = compiled'.map CompiledCondition.erased := h

theorem compileFrom_alike (known : Option TableColumns) (target : ColumnTarget)
    (used : ParamNames) {conditions conditions' : List Condition}
    (h : List.Forall₂ Condition.SameShape conditions conditions') :
    Alike CompiledCondition.AlikeAll (compileFrom known target used conditions)
      (compileFrom known target used conditions') := by
  induction h generalizing used with
  | nil => exact .ok rfl
  | @cons c c' rest rest' hc _ ih =>
    rw [compileFrom_cons, compileFrom_cons]
    refine Alike.bind (Condition.atom_alike known target hc) fun atom atom' hatom => ?_
    have htest : atom.test.erased = atom'.test.erased := congrArg Sql.Atom.test hatom
    have hbase : c.base = c'.base := congrArg baseColumn hc.column
    -- The names that are used up go into the rest of the filter, and they do not depend on values.
    obtain ⟨hparams, hused⟩ := used.assign_congr c.base c.operator htest
    rw [hused, ← hbase, ← hc.operator, ← hc.column]
    refine Alike.bind (ih _) fun compiled compiled' hcompiled => .ok ?_
    unfold CompiledCondition.AlikeAll
    rw [List.map_cons, List.map_cons, hcompiled.eq]
    simp only [CompiledCondition.erased, hatom, hparams]

theorem compile_alike (known : Option TableColumns) (target : ColumnTarget)
    {conditions conditions' : List Condition}
    (h : List.Forall₂ Condition.SameShape conditions conditions') :
    Alike CompiledCondition.AlikeAll (compile conditions known target)
      (compile conditions' known target) :=
  compileFrom_alike known target [] h

end FilterSql

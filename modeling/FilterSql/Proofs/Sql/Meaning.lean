import FilterSql.Sql.Predicate
import Mathlib.Data.List.Induction

/-!
# FilterSql.Proofs.Sql.Meaning

Which rows a WHERE clause selects. `truth` tells which tests are true of a row; a test of an unknown
value counts as not true, so two truth values are enough: nothing negates a group.

* `Sql.Predicate.holds`: the predicate that is written, read as AND and OR.
* `Sql.Predicate.eval_eq_true_iff`: it is what the three truth values of SQL come to.
* `Sql.Group.holds`: what the caller put together.
* `Sql.holds_whereClause`: a WHERE clause is true exactly when each of its groups is, however the
  groups were joined.
-/

namespace FilterSql
namespace Sql

def Predicate.holds (truth : Atom → Bool) : Predicate → Bool
  | .atom a => truth a
  | .constant value => value
  | .join .all left right => left.holds truth && right.holds truth
  | .join .any left right => left.holds truth || right.holds truth

mutual

def Clause.holds (truth : Atom → Bool) : Clause → Bool
  | .atom a => truth a
  | .group .all members => Clause.allHold truth members
  | .group .any members => Clause.anyHolds truth members

def Clause.allHold (truth : Atom → Bool) : List Clause → Bool
  | [] => true
  | member :: rest => member.holds truth && Clause.allHold truth rest

def Clause.anyHolds (truth : Atom → Bool) : List Clause → Bool
  | [] => false
  | member :: rest => member.holds truth || Clause.anyHolds truth rest

end

def Group.holds (truth : Atom → Bool) : Group → Bool
  | ⟨.all, members⟩ => Clause.allHold truth members
  | ⟨.any, members⟩ => Clause.anyHolds truth members

def whereHolds (truth : Atom → Bool) (groups : List Group) : Bool :=
  (Group.joinAll? groups).all fun group => group.predicate.holds truth

variable {truth : Atom → Bool}

/-! ## Predicates and clauses -/

theorem Clause.allHold_eq_all (members : List Clause) :
    Clause.allHold truth members = members.all (Clause.holds truth) := by
  induction members with
  | nil => rfl
  | cons member rest ih => rw [Clause.allHold, List.all_cons, ih]

theorem Clause.anyHolds_eq_any (members : List Clause) :
    Clause.anyHolds truth members = members.any (Clause.holds truth) := by
  induction members with
  | nil => rfl
  | cons member rest ih => rw [Clause.anyHolds, List.any_cons, ih]

theorem Predicate.holds_joinAll_all (members : List Predicate) :
    (joinAll .all members).holds truth = members.all (holds truth) := by
  suffices h : ∀ (rest : List Predicate) (first : Predicate),
      (rest.foldl (.join .all) first).holds truth = (first.holds truth && rest.all (holds truth)) by
    cases members with
    | nil => rfl
    | cons first rest => exact h rest first
  intro rest
  induction rest with
  | nil => intro first; simp
  | cons next rest ih =>
    intro first
    rw [List.foldl_cons, ih, List.all_cons, holds, Bool.and_assoc]

theorem Predicate.holds_joinAll_any (members : List Predicate) :
    (joinAll .any members).holds truth = members.any (holds truth) := by
  suffices h : ∀ (rest : List Predicate) (first : Predicate),
      (rest.foldl (.join .any) first).holds truth = (first.holds truth || rest.any (holds truth)) by
    cases members with
    | nil => rfl
    | cons first rest => exact h rest first
  intro rest
  induction rest with
  | nil => intro first; simp
  | cons next rest ih =>
    intro first
    rw [List.foldl_cons, ih, List.any_cons, holds, Bool.or_assoc]

mutual

theorem Clause.holds_predicate : ∀ c : Clause, c.predicate.holds truth = c.holds truth
  | .atom _ => rfl
  | .group .all members => by
    rw [Clause.predicate, Predicate.holds_joinAll_all, Clause.all_predicates members, Clause.holds]
  | .group .any members => by
    rw [Clause.predicate, Predicate.holds_joinAll_any, Clause.any_predicates members, Clause.holds]

theorem Clause.all_predicates : ∀ cs : List Clause,
    (Clause.predicates cs).all (Predicate.holds truth) = Clause.allHold truth cs
  | [] => rfl
  | c :: rest => by
    rw [Clause.predicates, List.all_cons, Clause.holds_predicate c, Clause.all_predicates rest,
      Clause.allHold]

theorem Clause.any_predicates : ∀ cs : List Clause,
    (Clause.predicates cs).any (Predicate.holds truth) = Clause.anyHolds truth cs
  | [] => rfl
  | c :: rest => by
    rw [Clause.predicates, List.any_cons, Clause.holds_predicate c, Clause.any_predicates rest,
      Clause.anyHolds]

end

/-! ## Unknown values -/

/-- AND and OR of the three truth values; none is unknown. -/
def Junction.eval : Junction → Option Bool → Option Bool → Option Bool
  | .all, some true, b => b
  | .all, some false, _ => some false
  | .all, none, some false => some false
  | .all, none, _ => none
  | .any, some false, b => b
  | .any, some true, _ => some true
  | .any, none, some true => some true
  | .any, none, _ => none

def Predicate.eval (value : Atom → Option Bool) : Predicate → Option Bool
  | .atom a => value a
  | .constant value => some value
  | .join junction left right => junction.eval (left.eval value) (right.eval value)

theorem Junction.eval_all_eq_true_iff {a b : Option Bool} :
    Junction.all.eval a b = some true ↔ a = some true ∧ b = some true := by
  rcases a with _ | _ | _ <;> rcases b with _ | _ | _ <;> simp [Junction.eval]

theorem Junction.eval_any_eq_true_iff {a b : Option Bool} :
    Junction.any.eval a b = some true ↔ a = some true ∨ b = some true := by
  rcases a with _ | _ | _ <;> rcases b with _ | _ | _ <;> simp [Junction.eval]

/-- Nothing negates a test, so one that is unknown does no more than one that is false. -/
theorem Predicate.eval_eq_true_iff (value : Atom → Option Bool) (p : Predicate) :
    p.eval value = some true ↔ p.holds (fun a => value a = some true) = true := by
  induction p with
  | atom a => simp [eval, holds]
  | constant value => simp [eval, holds]
  | join junction left right ihl ihr =>
    cases junction with
    | all => rw [eval, holds, Junction.eval_all_eq_true_iff, Bool.and_eq_true, ihl, ihr]
    | any => rw [eval, holds, Junction.eval_any_eq_true_iff, Bool.or_eq_true, ihl, ihr]

/-- Where every test is known, so is the whole. -/
theorem Predicate.eval_of_known {value : Atom → Option Bool} (h : ∀ a, value a = some (truth a))
    (p : Predicate) : p.eval value = some (p.holds truth) := by
  induction p with
  | atom a => exact h a
  | constant value => rfl
  | join junction left right ihl ihr =>
    rw [eval, ihl, ihr]
    cases junction <;> cases hl : left.holds truth <;> simp [Junction.eval, holds, hl]

/-! ## Groups -/

theorem Group.holds_predicate (group : Group) :
    group.predicate.holds truth = group.holds truth := by
  rcases group with ⟨_ | _, members⟩
  · rw [Group.predicate, Predicate.holds_joinAll_all, Clause.all_predicates, Group.holds]
  · rw [Group.predicate, Predicate.holds_joinAll_any, Clause.any_predicates, Group.holds]

theorem Group.holds_toClause (group : Group) : group.toClause.holds truth = group.holds truth := by
  rcases group with ⟨_ | _, _ | ⟨member, _ | ⟨next, rest⟩⟩⟩ <;>
    simp [Group.toClause, Group.holds, Clause.holds, Clause.allHold, Clause.anyHolds]

theorem Group.holds_add_all (truth : Atom → Bool) (members : List Clause) (added : Group) :
    ((Group.all members).add added).holds truth =
      ((Group.all members).holds truth && added.holds truth) := by
  simp [Group.add, Group.all, Group.holds, Clause.allHold_eq_all, Group.holds_toClause]

theorem Group.holds_add_any (truth : Atom → Bool) (members : List Clause) (added : Group) :
    ((Group.any members).add added).holds truth =
      ((Group.any members).holds truth || added.holds truth) := by
  simp [Group.add, Group.any, Group.holds, Clause.anyHolds_eq_any, Group.holds_toClause]

theorem Group.holds_join (current added : Group) :
    (current.join added).holds truth = (current.holds truth && added.holds truth) := by
  rcases current with ⟨_ | _, members⟩
  · rcases added with ⟨_ | _, more⟩
    · simp [Group.join, Group.holds, Clause.allHold_eq_all]
    · exact Group.holds_add_all truth members ⟨.any, more⟩
  · have h := Group.holds_add_all truth [(Group.any members).toClause] added
    have hall : (Group.all [(Group.any members).toClause]).holds truth =
        (Group.any members).holds truth := by
      simp [Group.all, Group.holds, Clause.allHold, Group.holds_toClause, Group.any]
    rw [hall] at h
    exact h

theorem Group.holds_foldl_add_any (branches : List Group) (members : List Clause) :
    (branches.foldl Group.add (Group.any members)).holds truth =
      ((Group.any members).holds truth || branches.any (Group.holds truth)) := by
  induction branches generalizing members with
  | nil => simp
  | cons branch rest ih =>
    have hadd := Group.holds_add_any truth members branch
    rw [List.foldl_cons, show (Group.any members).add branch =
      Group.any (members ++ [branch.toClause]) from rfl, ih,
      show Group.any (members ++ [branch.toClause]) = (Group.any members).add branch from rfl, hadd,
      List.any_cons, Bool.or_assoc]

theorem holds_whereClause (groups : List Group) :
    whereHolds truth groups = groups.all (Group.holds truth) := by
  unfold whereHolds
  induction groups using List.reverseRecOn with
  | nil => rfl
  | append_singleton groups added ih =>
    rw [Group.joinAll?_concat, List.all_append, ← ih]
    cases Group.joinAll? groups with
    | none => simp [Group.holds_predicate]
    | some current => simp [Group.holds_predicate, Group.holds_join]

end Sql
end FilterSql

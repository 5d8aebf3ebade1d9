import FilterSql.Sql.Predicate
import Mathlib.Data.List.Induction

/-!
# FilterSql.Proofs.Sql.Values

Which values the pieces of a WHERE clause bind, and in which order.

* `Sql.binds`: the values that pieces bind, from left to right.
* `Sql.write_append`: the text of pieces one after another.
* `Sql.Clause.values`, `Sql.Group.values`: the values that tests hold, without regard to how the
  tests are written.
* `Sql.binds_wherePieces`: a WHERE clause binds the values of its groups one after another, whatever
  the groups became when they were joined.
-/

namespace FilterSql
namespace Sql

def binds (pieces : List Piece) : List Bound := pieces.filterMap Piece.bound?

@[simp] theorem binds_nil : binds [] = [] := rfl

@[simp] theorem binds_text (s : String) (rest : List Piece) :
    binds (.text s :: rest) = binds rest := rfl

@[simp] theorem binds_name (s : String) (rest : List Piece) :
    binds (.name s :: rest) = binds rest := rfl

@[simp] theorem binds_bind (value : Bound) (rest : List Piece) :
    binds (.bind value :: rest) = value :: binds rest := rfl

@[simp] theorem binds_append (a b : List Piece) : binds (a ++ b) = binds a ++ binds b :=
  List.filterMap_append

@[simp] theorem binds_columnPieces (c : ColumnRef) : binds c.pieces = [] := by
  rcases c with ⟨_ | _, _⟩ <;> rfl

@[simp] theorem binds_valuePieces (value : Option Bound) :
    binds (valuePieces value) = value.toList := by
  cases value <;> rfl

theorem binds_separated (separator : String) (lists : List (List Piece)) :
    binds (separated separator lists) = lists.flatMap binds := by
  induction lists with
  | nil => rfl
  | cons pieces rest ih =>
    cases rest with
    | nil => simp [separated]
    | cons next rest => simp [separated, ih]

theorem binds_atomPieces (a : Atom) : binds a.pieces = a.test.values := by
  rcases a with ⟨column, op | ⟨negated, pattern⟩ | ⟨negated, _ | ⟨v, vs⟩⟩ | _ | _⟩ <;>
    simp [Atom.pieces, Test.values, commaSeparated, binds_separated, List.flatMap_map]

/-- The placeholders of the second part are numbered on from those of the first. -/
theorem write_append (dialect : Dialect) (n : Nat) (a b : List Piece) :
    Piece.write dialect n (a ++ b) =
      Piece.write dialect n a ++ Piece.write dialect (n + (binds a).length) b := by
  induction a generalizing n with
  | nil => rfl
  | cons p rest ih =>
    cases p with
    | text s => simp [Piece.write, ih]
    | name s => simp [Piece.write, ih]
    | bind value => simp [Piece.write, ih, Nat.add_comm 1, Nat.add_assoc]

/-! ## Groups -/

mutual

def Clause.values : Clause → List Bound
  | .atom a => a.test.values
  | .group _ members => Clause.valuesAll members

def Clause.valuesAll : List Clause → List Bound
  | [] => []
  | member :: rest => member.values ++ Clause.valuesAll rest

end

def Group.values (group : Group) : List Bound := Clause.valuesAll group.members

theorem Clause.valuesAll_append (a b : List Clause) :
    Clause.valuesAll (a ++ b) = Clause.valuesAll a ++ Clause.valuesAll b := by
  induction a with
  | nil => rfl
  | cons member rest ih => simp [Clause.valuesAll, ih]

theorem Group.toClause_values (group : Group) : group.toClause.values = group.values := by
  rcases group with ⟨junction, _ | ⟨member, _ | ⟨next, rest⟩⟩⟩ <;>
    simp [Group.toClause, Group.values, Clause.values, Clause.valuesAll]

theorem Group.add_values (group member : Group) :
    (group.add member).values = group.values ++ member.values := by
  have h := Group.toClause_values member
  simp only [Group.values] at h
  simp [Group.add, Group.values, Clause.valuesAll_append, Clause.valuesAll, h]

theorem Group.join_values (current added : Group) :
    (current.join added).values = current.values ++ added.values := by
  rcases current with ⟨_ | _, members⟩ <;> rcases added with ⟨_ | _, more⟩ <;>
    simp only [Group.join, Group.add_values]
  · simp [Group.values, Clause.valuesAll_append]
  all_goals simp [Group.values, Group.all, Clause.valuesAll]

theorem Group.joinAll?_values (groups : List Group) :
    (Group.joinAll? groups).elim [] Group.values = groups.flatMap Group.values := by
  -- From the end, as the group that is added last joins all those before it.
  induction groups using List.reverseRecOn with
  | nil => rfl
  | append_singleton groups added ih =>
    rw [Group.joinAll?_concat, List.flatMap_append, ← ih]
    cases Group.joinAll? groups with
    | none => simp
    | some current => simp [Group.join_values]

/-! ## Predicates -/

@[simp] theorem binds_wrap (bare : Bool) (pieces : List Piece) :
    binds (Predicate.wrap bare pieces) = binds pieces := by
  cases bare <;> simp [Predicate.wrap]

theorem binds_joinPieces (junction : Junction) (left right : Predicate) :
    binds (Predicate.join junction left right).pieces =
      binds left.pieces ++ binds right.pieces := by
  simp [Predicate.pieces]

theorem binds_joinAllPieces (junction : Junction) (members : List Predicate) :
    binds (Predicate.joinAll junction members).pieces =
      members.flatMap fun p => binds p.pieces := by
  suffices h : ∀ (rest : List Predicate) (first : Predicate),
      binds (rest.foldl (.join junction) first).pieces =
        binds first.pieces ++ rest.flatMap fun p => binds p.pieces by
    cases members with
    | nil => rfl
    | cons first rest => exact h rest first
  intro rest
  induction rest with
  | nil => intro first; simp
  | cons next rest ih => intro first; simp [ih, binds_joinPieces]

mutual

theorem Clause.binds_predicate : ∀ c : Clause, binds c.predicate.pieces = c.values
  | .atom a => binds_atomPieces a
  | .group junction members => by
    simp only [Clause.predicate, Clause.values, binds_joinAllPieces,
      Clause.binds_predicates members]

theorem Clause.binds_predicates : ∀ cs : List Clause,
    (Clause.predicates cs).flatMap (fun p => binds p.pieces) = Clause.valuesAll cs
  | [] => rfl
  | c :: rest => by
    simp only [Clause.predicates, Clause.valuesAll, List.flatMap_cons, Clause.binds_predicate c,
      Clause.binds_predicates rest]

end

theorem Group.binds_predicate (group : Group) : binds group.predicate.pieces = group.values := by
  simp only [Group.predicate, Group.values, binds_joinAllPieces, Clause.binds_predicates]

theorem binds_wherePieces (groups : List Group) :
    binds (wherePieces groups) = groups.flatMap Group.values := by
  rw [← Group.joinAll?_values]
  cases h : Group.joinAll? groups with
  | none => simp [wherePieces, h]
  | some group => simp [wherePieces, h, Group.binds_predicate]

end Sql

namespace Statement

theorem ofPieces_args (dialect : Dialect) (pieces : List Sql.Piece) :
    (ofPieces dialect pieces).args = Sql.binds pieces := rfl

theorem sql_ofPieces_append (dialect : Dialect) (a b : List Sql.Piece) :
    (ofPieces dialect (a ++ b)).sql = (ofPieces dialect a).sql ++
      String.ofList (Sql.Piece.write dialect ((ofPieces dialect a).args.length + 1) b) := by
  simp only [ofPieces, Sql.write_append, String.ofList_append, Nat.add_comm _ 1]
  rfl

/-- Where the first part binds nothing, the second is numbered as on its own. -/
theorem sql_ofPieces_append_of_binds {a : List Sql.Piece} (h : Sql.binds a = [])
    (dialect : Dialect) (b : List Sql.Piece) :
    (ofPieces dialect (a ++ b)).sql = (ofPieces dialect a).sql ++ (ofPieces dialect b).sql := by
  rw [sql_ofPieces_append, ofPieces_args, h]
  rfl

end Statement

end FilterSql

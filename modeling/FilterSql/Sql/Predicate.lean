import FilterSql.Sql.Column

/-!
# FilterSql.Sql.Predicate

What a WHERE clause says of a row.

* `Atom`: a test of one column.
* `Clause`, `Group`: tests under nested AND and OR, as callers put them together.
* `Predicate`: the binary tree that is written, with parentheses where they are needed.
* `Group.join?`: how a further group narrows what is there.
-/

namespace FilterSql
namespace Sql

inductive Comparison where
  | eq
  | ne
  | lt
  | le
  | gt
  | ge
deriving DecidableEq

def Comparison.sql : Comparison → String
  | .eq => " = "
  | .ne => " <> "
  | .lt => " < "
  | .le => " <= "
  | .gt => " > "
  | .ge => " >= "

inductive Test where
  | compare (op : Comparison) (value : Bound)
  | like (negated : Bool) (pattern : String)
  | member (negated : Bool) (values : List Bound)
  | between (negated : Bool) (low high : Bound)
  | null (negated : Bool)
deriving DecidableEq

/-- The values of a test in the order in which they are bound. A test for membership of no values
is a comparison of two constants that is always false, or always true if it is negated. -/
def Test.values : Test → List Bound
  | .compare _ value => [value]
  | .like _ pattern => [.text pattern]
  | .member negated [] => [.literal 1, .literal (if negated then 1 else 2)]
  | .member _ values => values
  | .between _ low high => [low, high]
  | .null _ => []

structure Atom where
  column : ColumnRef
  test : Test
deriving DecidableEq

def Atom.pieces (atom : Atom) : List Piece :=
  let column := atom.column.pieces
  match atom.test with
  | .compare op value => column ++ [.text op.sql, .bind value]
  | .like negated pattern =>
    column ++ [.text (if negated then " NOT LIKE " else " LIKE "), .bind (.text pattern)]
  | .member negated [] =>
    [.bind (.literal 1), .text " = ", .bind (.literal (if negated then 1 else 2))]
  | .member negated values =>
    column ++ .text (if negated then " NOT IN (" else " IN (") ::
      commaSeparated (values.map fun v => [.bind v]) ++ [.text ")"]
  | .between negated low high =>
    column ++ [.text (if negated then " NOT BETWEEN " else " BETWEEN "), .bind low,
      .text " AND ", .bind high]
  | .null negated => column ++ [.text (if negated then " IS NOT NULL" else " IS NULL")]

/-- Whether all or any of the members must hold. -/
inductive Junction where
  | all
  | any
deriving DecidableEq

def Junction.sql : Junction → String
  | .all => " AND "
  | .any => " OR "

/-! ## Groups -/

inductive Clause where
  | atom (atom : Atom)
  | group (junction : Junction) (members : List Clause)

structure Group where
  junction : Junction
  members : List Clause

namespace Group

def all (members : List Clause) : Group := ⟨.all, members⟩

def any (members : List Clause) : Group := ⟨.any, members⟩

/-- A group as a member of another: its only member takes its place. -/
def toClause : Group → Clause
  | ⟨_, [member]⟩ => member
  | ⟨junction, members⟩ => .group junction members

/-- A group with one more member. -/
def add (group : Group) (member : Group) : Group :=
  ⟨group.junction, group.members ++ [member.toClause]⟩

/-- What results when a group is added to those that must hold already. -/
def join (current added : Group) : Group :=
  match current.junction, added.junction with
  | .all, .all => ⟨.all, current.members ++ added.members⟩
  | .all, .any => current.add added
  | .any, _ => ((all []).add current).add added

/-- All the groups together; none if there are no groups. -/
def joinAll? (groups : List Group) : Option Group :=
  groups.foldl (fun current added =>
    match current with
    | none => some added
    | some current => some (current.join added)) none

theorem joinAll?_concat (groups : List Group) (added : Group) :
    joinAll? (groups ++ [added]) =
      some ((joinAll? groups).elim added fun current => current.join added) := by
  rw [joinAll?, List.foldl_append, ← joinAll?]
  cases joinAll? groups <;> rfl

end Group

/-! ## Predicates -/

inductive Predicate where
  | atom (atom : Atom)
  | constant (value : Bool)
  | join (junction : Junction) (left right : Predicate)

namespace Predicate

/-- The members from left to right; a group of no members is true for AND and false for OR. -/
def joinAll (junction : Junction) : List Predicate → Predicate
  | [] => .constant (junction = .all)
  | first :: rest => rest.foldl (.join junction) first

/-- Whether an operand of a junction stands without parentheses: on the left a junction of the
same kind does, on either side all else but BETWEEN and junctions. -/
def isBare (left : Bool) (junction : Junction) : Predicate → Bool
  | .atom ⟨_, .between _ _ _⟩ => false
  | .atom _ => true
  | .constant _ => true
  | .join inner _ _ => left && inner = junction

def wrap (bare : Bool) (pieces : List Piece) : List Piece :=
  if bare then pieces else .text "(" :: pieces ++ [.text ")"]

def pieces : Predicate → List Piece
  | .atom a => a.pieces
  | .constant value => [.text (if value then "TRUE" else "FALSE")]
  | .join junction left right =>
    wrap (left.isBare true junction) left.pieces ++
      .text junction.sql :: wrap (right.isBare false junction) right.pieces

end Predicate

mutual

def Clause.predicate : Clause → Predicate
  | .atom a => .atom a
  | .group junction members => .joinAll junction (Clause.predicates members)

def Clause.predicates : List Clause → List Predicate
  | [] => []
  | member :: rest => member.predicate :: Clause.predicates rest

end

def Group.predicate (group : Group) : Predicate :=
  .joinAll group.junction (Clause.predicates group.members)

/-- The WHERE clause for groups that must all hold; nothing for no groups. -/
def wherePieces (groups : List Group) : List Piece :=
  match Group.joinAll? groups with
  | none => []
  | some group => .text " WHERE " :: group.predicate.pieces

end Sql
end FilterSql

import FilterSql.Proofs.Sql.Values

/-!
# FilterSql.Proofs.Sql.Erased

Statements and WHERE clauses with their values erased: every value is replaced by the same one, all
else stays.

* `Statement.ofPieces_erased`: the text of a statement is that of its erased pieces.
* `Sql.erase_wherePieces`: a WHERE clause up to its values is that of the erased groups.
-/

namespace FilterSql

/-- The value that stands in for every other. -/
def Bound.erased (_ : Bound) : Bound := .now

def Statement.erased (s : Statement) : Statement := { s with args := s.args.map Bound.erased }

namespace Sql

def Piece.erased : Piece → Piece
  | .bind value => .bind value.erased
  | p => p

def erase (pieces : List Piece) : List Piece := pieces.map Piece.erased

@[simp] theorem erase_nil : erase [] = [] := rfl

@[simp] theorem erase_text (s : String) (rest : List Piece) :
    erase (.text s :: rest) = .text s :: erase rest := rfl

@[simp] theorem erase_name (s : String) (rest : List Piece) :
    erase (.name s :: rest) = .name s :: erase rest := rfl

@[simp] theorem erase_bind (value : Bound) (rest : List Piece) :
    erase (.bind value :: rest) = .bind .now :: erase rest := rfl

@[simp] theorem erase_append (a b : List Piece) : erase (a ++ b) = erase a ++ erase b :=
  List.map_append

@[simp] theorem write_erase (dialect : Dialect) (n : Nat) (pieces : List Piece) :
    Piece.write dialect n (erase pieces) = Piece.write dialect n pieces := by
  induction pieces generalizing n with
  | nil => rfl
  | cons p rest ih => cases p <;> simp [Piece.write, ih]

@[simp] theorem binds_erase (pieces : List Piece) :
    binds (erase pieces) = (binds pieces).map Bound.erased := by
  induction pieces with
  | nil => rfl
  | cons p rest ih => cases p <;> simp [ih, Bound.erased]

theorem erase_separated (separator : String) (lists : List (List Piece)) :
    erase (separated separator lists) = separated separator (lists.map erase) := by
  induction lists with
  | nil => rfl
  | cons pieces rest ih =>
    cases rest with
    | nil => rfl
    | cons next rest =>
      rw [List.map_cons, List.map_cons] at *
      simp only [separated, erase_append, erase_text, ih]

theorem erase_commaSeparated (lists : List (List Piece)) :
    erase (commaSeparated lists) = commaSeparated (lists.map erase) := erase_separated _ _

end Sql

theorem Statement.ofPieces_erased (dialect : Dialect) (pieces : List Sql.Piece) :
    Statement.ofPieces dialect (Sql.erase pieces) = (Statement.ofPieces dialect pieces).erased := by
  have hargs := Sql.binds_erase pieces
  rw [← Statement.ofPieces_args dialect, ← Statement.ofPieces_args dialect] at hargs
  simp only [Statement.erased, ← hargs]
  simp [Statement.ofPieces]

/-- Statements whose pieces are the same up to values have the same text. -/
theorem Statement.ofPieces_erased_congr {dialect : Dialect} {pieces pieces' : List Sql.Piece}
    (h : Sql.erase pieces = Sql.erase pieces') :
    (Statement.ofPieces dialect pieces).erased = (Statement.ofPieces dialect pieces').erased := by
  rw [← ofPieces_erased, h, ofPieces_erased]

namespace Sql

/-! ## Tests -/

/-- A test for membership keeps the number of its values. -/
def Test.erased : Test → Test
  | .compare op value => .compare op value.erased
  | .like negated _ => .like negated ""
  | .member negated values => .member negated (values.map Bound.erased)
  | .between negated low high => .between negated low.erased high.erased
  | .null negated => .null negated

def Atom.erased (a : Atom) : Atom := { a with test := a.test.erased }

theorem Atom.erase_pieces (a : Atom) : erase a.erased.pieces = erase a.pieces := by
  rcases a with ⟨column, op | ⟨negated, pattern⟩ | ⟨negated, _ | ⟨v, vs⟩⟩ | _ | _⟩ <;>
    simp [Atom.erased, Test.erased, Atom.pieces, erase_commaSeparated, Function.comp_def]

/-! ## Groups -/

mutual

def Clause.erased : Clause → Clause
  | .atom a => .atom a.erased
  | .group junction members => .group junction (Clause.erasedAll members)

def Clause.erasedAll : List Clause → List Clause
  | [] => []
  | member :: rest => member.erased :: Clause.erasedAll rest

end

theorem Clause.erasedAll_eq_map (members : List Clause) :
    Clause.erasedAll members = members.map Clause.erased := by
  induction members with
  | nil => rfl
  | cons member rest ih => simp [Clause.erasedAll, ih]

def Group.erased (group : Group) : Group := ⟨group.junction, group.members.map Clause.erased⟩

theorem Group.erased_toClause (group : Group) : group.toClause.erased = group.erased.toClause := by
  rcases group with ⟨junction, _ | ⟨member, _ | ⟨next, rest⟩⟩⟩ <;>
    simp [Group.toClause, Group.erased, Clause.erased, Clause.erasedAll_eq_map]

theorem Group.erased_add (group member : Group) :
    (group.add member).erased = group.erased.add member.erased := by
  simp [Group.add, Group.erased, Group.erased_toClause]

theorem Group.erased_join (current added : Group) :
    (current.join added).erased = current.erased.join added.erased := by
  rcases current with ⟨_ | _, members⟩ <;> rcases added with ⟨_ | _, more⟩ <;>
    simp only [Group.join, Group.erased_add]
  · simp [Group.erased]
  all_goals rfl

theorem Group.erased_joinAll? (groups : List Group) :
    (Group.joinAll? groups).map Group.erased = Group.joinAll? (groups.map Group.erased) := by
  -- From the end, as the group that is added last joins all those before it.
  induction groups using List.reverseRecOn with
  | nil => rfl
  | append_singleton groups added ih =>
    rw [Group.joinAll?_concat, List.map_append, List.map_singleton, Group.joinAll?_concat, ← ih]
    cases Group.joinAll? groups with
    | none => rfl
    | some current => simp only [Option.map_some, Option.elim_some, Group.erased_join]

/-! ## Predicates -/

def Predicate.erased : Predicate → Predicate
  | .atom a => .atom a.erased
  | .constant value => .constant value
  | .join junction left right => .join junction left.erased right.erased

theorem Predicate.isBare_erased (left : Bool) (junction : Junction) (p : Predicate) :
    p.erased.isBare left junction = p.isBare left junction := by
  -- Parentheses depend on the kind of the test only.
  rcases p with ⟨_, _ | _ | _ | _ | _⟩ | _ | _ <;> rfl

theorem Predicate.erase_wrap (bare : Bool) (pieces : List Piece) :
    erase (wrap bare pieces) = wrap bare (erase pieces) := by
  cases bare <;> simp [wrap]

theorem Predicate.erase_pieces (p : Predicate) : erase p.erased.pieces = erase p.pieces := by
  induction p with
  | atom a => exact a.erase_pieces
  | constant value => rfl
  | join junction left right ihl ihr =>
    simp [Predicate.erased, Predicate.pieces, erase_wrap, isBare_erased, ihl, ihr]

theorem Predicate.erased_joinAll (junction : Junction) (members : List Predicate) :
    (joinAll junction members).erased = joinAll junction (members.map Predicate.erased) := by
  cases members with
  | nil => rfl
  | cons first rest =>
    simp only [joinAll, List.map_cons]
    induction rest generalizing first with
    | nil => rfl
    | cons next rest ih => exact ih _

mutual

theorem Clause.erased_predicate : ∀ c : Clause, c.predicate.erased = c.erased.predicate
  | .atom a => rfl
  | .group junction members => by
    simp only [Clause.predicate, Clause.erased, Predicate.erased_joinAll,
      Clause.erased_predicates members]

theorem Clause.erased_predicates : ∀ cs : List Clause,
    (Clause.predicates cs).map Predicate.erased = Clause.predicates (Clause.erasedAll cs)
  | [] => rfl
  | c :: rest => by
    simp only [Clause.predicates, Clause.erasedAll, List.map_cons, Clause.erased_predicate c,
      Clause.erased_predicates rest]

end

theorem Group.erased_predicate (group : Group) :
    group.predicate.erased = group.erased.predicate := by
  simp only [Group.predicate, Group.erased, Predicate.erased_joinAll, Clause.erased_predicates,
    Clause.erasedAll_eq_map]

theorem erase_wherePieces (groups : List Group) :
    erase (wherePieces (groups.map Group.erased)) = erase (wherePieces groups) := by
  have h := Group.erased_joinAll? groups
  unfold wherePieces
  cases hg : Group.joinAll? groups with
  | none =>
    rw [hg] at h
    simp [← h]
  | some group =>
    rw [hg] at h
    simp [← h, ← Group.erased_predicate, Predicate.erase_pieces]

end Sql
end FilterSql

import FilterSql.Proofs.Sql.Meaning
import FilterSql.Proofs.Sql.Reader

/-!
# FilterSql.Proofs.Sql.Precedence

WHERE clauses read back from their text and their values, by the precedence of SQL: BETWEEN takes
the first AND behind it, AND binds before OR, both group to the left, and parentheses go before all.

* `Sql.Reader.predicate`: the reader, which knows nothing of how a clause is put together.
* `Sql.Predicate.seed`, `Sql.Predicate.steps`: a predicate as operands of one junction in a row.
* `Sql.reads_predicate`: what is written for a predicate is read as that predicate.
* `Sql.reads_wherePieces`: the same for a whole WHERE clause.
-/

namespace FilterSql
namespace Sql

/-! ## Readers -/

namespace Reader

/-- A column, with a table alias or without. -/
def column : Reader ColumnRef := do
  let first ← name
  orElse (do skip "."; let second ← name; return ⟨some first, second⟩) (return ⟨none, first⟩)

/-- The reader of the first keyword that the text begins with. -/
def choose {α : Type} : List (String × Reader α) → Reader α
  | [] => fun _ => none
  | (keyword, next) :: rest => orElse (do skip keyword; next) (choose rest)

def compared (dialect : Dialect) (op : Comparison) : Reader Test := do
  let value ← bound dialect
  return .compare op value

def pattern (dialect : Dialect) (negated : Bool) : Reader Test := fun unread =>
  match bound dialect unread with
  | some (.text pattern, unread) => some (.like negated pattern, unread)
  | _ => none

def members (dialect : Dialect) (negated : Bool) : Reader Test := do
  let values ← list (bound dialect)
  skip ")"
  return .member negated values

/-- The two ends of a range; the AND between them belongs to BETWEEN. -/
def range (dialect : Dialect) (negated : Bool) : Reader Test := do
  let low ← bound dialect
  skip " AND "
  let high ← bound dialect
  return .between negated low high

/-- What may follow a column. -/
def tests (dialect : Dialect) : List (String × Reader Test) :=
  [(" = ", compared dialect .eq), (" <> ", compared dialect .ne), (" < ", compared dialect .lt),
    (" <= ", compared dialect .le), (" > ", compared dialect .gt), (" >= ", compared dialect .ge),
    (" LIKE ", pattern dialect false), (" NOT LIKE ", pattern dialect true),
    (" IN (", members dialect false), (" NOT IN (", members dialect true),
    (" BETWEEN ", range dialect false), (" NOT BETWEEN ", range dialect true),
    (" IS NULL", return .null false), (" IS NOT NULL", return .null true)]

def atom (dialect : Dialect) : Reader Predicate := do
  let column ← column
  let test ← choose (tests dialect)
  return .atom ⟨column, test⟩

/-- A comparison of two constants. -/
def constants (dialect : Dialect) : Reader Predicate := do
  let left ← bound dialect
  skip " = "
  let right ← bound dialect
  return .constant (left = right)

/-- An operand of AND and OR; `inner` reads what stands between parentheses. -/
def operand (dialect : Dialect) (inner : Reader Predicate) : Reader Predicate :=
  orElse (atom dialect) (orElse (constants dialect) (choose
    [("(", do let p ← inner; skip ")"; return p), ("TRUE", return .constant true),
      ("FALSE", return .constant false)]))

/-- Further operands of a junction, which group to the left. -/
def joined (junction : Junction) (item : Reader Predicate) : Nat → Predicate → Reader Predicate
  | 0, _ => fun _ => none
  | fuel + 1, left =>
    orElse
      (do
        skip junction.sql
        let right ← item
        joined junction item fuel (.join junction left right))
      (return left)

def operands (junction : Junction) (item : Reader Predicate) (fuel : Nat) : Reader Predicate := do
  let first ← item
  joined junction item fuel first

/-- OR over AND over operands; with `fuel` for the parentheses and for the length of each row. -/
def predicate (dialect : Dialect) : Nat → Reader Predicate
  | 0 => fun _ => none
  | fuel + 1 =>
    operands .any (operands .all (operand dialect (predicate dialect fuel)) (fuel + 1)) (fuel + 1)

/-- A WHERE clause, if there is one. No predicate has more parts than its text has characters. -/
def whereClause (dialect : Dialect) : Reader (Option Predicate) :=
  orElse
    (do
      skip " WHERE "
      let p ← fun unread => predicate dialect (unread.chars.length + 1) unread
      return some p)
    (return none)

end Reader

/-! ## Parts of the text -/

/-- Neither of two texts goes on with the other. -/
def incomparable (a b : String) : Bool :=
  !a.toList.isPrefixOf b.toList && !b.toList.isPrefixOf a.toList

variable {dialect : Dialect} {α β : Type} {pieces : List Piece} {before before' : List Char → Prop}

theorem not_prefix_of_incomparable {a b : String} (h : incomparable a b = true) (more : List Char) :
    ¬ a.toList <+: b.toList ++ more := by
  intro hprefix
  simp only [incomparable, Bool.and_eq_true, Bool.not_eq_true', ← Bool.not_eq_true,
    List.isPrefixOf_iff_prefix] at h
  rcases List.prefix_or_prefix_of_prefix hprefix (List.prefix_append b.toList more) with hab | hba
  · exact h.1 hab
  · exact h.2 hba

theorem skip_of_not_prefix {text : String} {chars : List Char} (h : ¬ text.toList <+: chars)
    (n : Nat) (values : List Bound) : Reader.skip text ⟨chars, n, values⟩ = none := by
  rw [Reader.skip, if_neg]
  rwa [List.isPrefixOf_iff_prefix]

/-- Of keywords that cannot be taken for each other, the one that is written is chosen. -/
theorem reads_choose {keyword : String} {next : Reader α} {a : α}
    {alternatives : List (String × Reader α)} (hmem : (keyword, next) ∈ alternatives)
    (hfree : (alternatives.map Prod.fst).Pairwise fun x y => incomparable x y = true)
    (h : ReadsBefore dialect before next pieces a) :
    ReadsBefore dialect before (Reader.choose alternatives) (.text keyword :: pieces) a := by
  intro n rest values hr
  induction alternatives with
  | nil => cases hmem
  | cons other alternatives ih =>
    obtain ⟨hfirst, hrest⟩ := List.pairwise_cons.1 hfree
    rcases List.mem_cons.1 hmem with rfl | hmem
    · exact Reader.orElse_of_some (h.skip keyword n rest values hr)
    · have hother := hfirst keyword (List.mem_map_of_mem hmem)
      have hskip : Reader.skip other.1 ⟨Piece.write dialect n (.text keyword :: pieces) ++ rest, n,
          binds (.text keyword :: pieces) ++ values⟩ = none := by
        rw [Piece.write, List.append_assoc]
        exact skip_of_not_prefix (not_prefix_of_incomparable hother _) _ _
      exact (Reader.orElse_of_none (Reader.bind_of_none hskip)).trans (ih hmem hrest)

/-! ## Tests -/

/-- What stands behind a test: a blank, or the parenthesis that closes. -/
def endsTest (c : Char) : Bool := c == ' ' || c == ')'

theorem isPlain_of_endsTest {c : Char} (h : endsTest c = true) : isPlain c = true := by
  simp only [endsTest, Bool.or_eq_true, beq_iff_eq] at h
  rcases h with rfl | rfl <;> decide

theorem endsList_of_endsTest {c : Char} (h : endsTest c = true) : endsList c = true := by
  simp only [endsTest, Bool.or_eq_true, beq_iff_eq] at h
  rcases h with rfl | rfl <;> decide

/-- A plain character but the point between a table alias and a column. -/
def endsColumn (c : Char) : Bool := isPlain c && c != '.'

theorem isPlain_of_endsColumn {c : Char} (h : endsColumn c = true) : isPlain c = true :=
  (Bool.and_eq_true_iff.1 h).1

theorem endsItems_endsColumn_of_endsTest {c : Char} (h : endsTest c = true) :
    endsItems endsColumn c = true := by
  simp only [endsTest, Bool.or_eq_true, beq_iff_eq] at h
  rcases h with rfl | rfl <;> decide

theorem reads_column (c : ColumnRef) : Reads dialect endsColumn Reader.column c.pieces c := by
  obtain ⟨_ | qualifier, name⟩ := c
  · have hnone : Reads dialect endsColumn
        (.orElse (do Reader.skip "."; let second ← Reader.name; return ⟨some name, second⟩)
          (return ⟨none, name⟩)) [] (⟨none, name⟩ : ColumnRef) := by
      intro n rest values hr
      have hskip : Reader.skip "." ⟨rest, n, values⟩ = none := by
        refine skip_of_head_ne (by decide) ?_ n values
        intro heq
        exact absurd (hr '.' heq) (by decide)
      exact Reader.orElse_of_none (Reader.bind_of_none hskip)
    exact (reads_name name).bind hnone fun n rest hr c hc => isPlain_of_endsColumn (hr c hc)
  · have hlast : Reads dialect endsColumn Reader.name [.name name] name :=
      (reads_name name).mono fun _ => isPlain_of_endsColumn
    have hsecond : Reads dialect endsColumn
        (.orElse (do Reader.skip "."; let second ← Reader.name; return ⟨some qualifier, second⟩)
          (return ⟨none, qualifier⟩)) [.text ".", .name name]
        (⟨some qualifier, name⟩ : ColumnRef) :=
      (Reads.skip "." (hlast.map (ColumnRef.mk (some qualifier)))).orElse
    exact (reads_name qualifier).bind hsecond fun n rest _ => goesOn_text rfl (by decide) _ n rest

theorem reads_pattern (negated : Bool) (text : String) :
    Reads dialect isPlain (Reader.pattern dialect negated) [.bind (.text text)]
      (.like negated text) := by
  intro n rest values hr
  rw [Reader.pattern, reads_bound (.text text) n rest values hr]

theorem reads_members (negated : Bool) {values : List Bound} (h : values ≠ []) :
    Reads dialect endsTest (Reader.members dialect negated)
      (commaSeparated (values.map fun v => [.bind v]) ++ [.text ")"]) (.member negated values) :=
  (reads_list (fun value _ => reads_bound value) h).bind_skip (c := ')') rfl (by decide)
    (Reads.pure _)

theorem reads_range (negated : Bool) (low high : Bound) :
    Reads dialect isPlain (Reader.range dialect negated)
      [.bind low, .text " AND ", .bind high] (.between negated low high) :=
  (reads_bound low).bind_skip (c := ' ') rfl (by decide)
    ((reads_bound high).map (Test.between negated low))

theorem incomparable_tests (dialect : Dialect) :
    ((Reader.tests dialect).map Prod.fst).Pairwise fun x y => incomparable x y = true := by
  simp only [Reader.tests, List.map_cons, List.map_nil]
  decide

/-- What is written behind the column of a test; a test for membership of nothing has no column. -/
theorem exists_pieces_test (dialect : Dialect) (column : ColumnRef) {test : Test}
    (h : ∀ negated, test ≠ .member negated []) :
    ∃ (keyword : String) (pieces : List Piece) (next : Reader Test),
      Atom.pieces ⟨column, test⟩ = column.pieces ++ .text keyword :: pieces ∧
      keyword.toList.head? = some ' ' ∧ (keyword, next) ∈ Reader.tests dialect ∧
      Reads dialect endsTest next pieces test := by
  have hplain : ∀ c, endsTest c = true → isPlain c = true := fun _ => isPlain_of_endsTest
  cases test with
  | compare op value =>
    refine ⟨op.sql, [.bind value], Reader.compared dialect op, rfl, by cases op <;> rfl, ?_,
      ((reads_bound value).map (Test.compare op)).mono hplain⟩
    cases op <;> simp [Reader.tests, Comparison.sql]
  | like negated text =>
    refine ⟨if negated then " NOT LIKE " else " LIKE ", [.bind (.text text)],
      Reader.pattern dialect negated, rfl, by cases negated <;> rfl, ?_,
      (reads_pattern negated text).mono hplain⟩
    cases negated <;> simp [Reader.tests]
  | member negated values =>
    cases values with
    | nil => exact absurd rfl (h negated)
    | cons value values =>
      refine ⟨if negated then " NOT IN (" else " IN (",
        commaSeparated ((value :: values).map fun v => [.bind v]) ++ [.text ")"],
        Reader.members dialect negated, by simp [Atom.pieces], by cases negated <;> rfl, ?_,
        reads_members negated (by simp)⟩
      cases negated <;> simp [Reader.tests]
  | between negated low high =>
    refine ⟨if negated then " NOT BETWEEN " else " BETWEEN ",
      [.bind low, .text " AND ", .bind high], Reader.range dialect negated, rfl,
      by cases negated <;> rfl, ?_, (reads_range negated low high).mono hplain⟩
    cases negated <;> simp [Reader.tests]
  | null negated =>
    refine ⟨if negated then " IS NOT NULL" else " IS NULL", [], (return .null negated), rfl,
      by cases negated <;> rfl, ?_, Reads.pure _⟩
    cases negated <;> simp [Reader.tests]

theorem reads_atom {a : Atom} (h : ∀ negated, a.test ≠ .member negated []) :
    Reads dialect endsTest (Reader.atom dialect) a.pieces (.atom a) := by
  obtain ⟨column, test⟩ := a
  obtain ⟨keyword, pieces, next, hpieces, hhead, hmem, hnext⟩ := exists_pieces_test dialect column h
  have htest : Reads dialect endsTest
      (do let test ← Reader.choose (Reader.tests dialect); return Predicate.atom ⟨column, test⟩)
      (.text keyword :: pieces) (Predicate.atom ⟨column, test⟩) :=
    Reads.map (fun test => Predicate.atom ⟨column, test⟩)
      (reads_choose hmem (incomparable_tests dialect) hnext)
  rw [hpieces]
  exact (reads_column column).bind htest fun n rest _ => goesOn_text hhead (by decide) _ n rest

/-! ## Predicates -/

namespace Predicate

/-- The tests for membership of nothing decided, as they are written without their column. -/
def settled : Predicate → Predicate
  | .atom ⟨_, .member negated []⟩ => .constant negated
  | .atom a => .atom a
  | .constant value => .constant value
  | .join junction left right => .join junction left.settled right.settled

/-- The first operand of a row of operands of one junction. -/
def seed (junction : Junction) : Predicate → Predicate
  | .join inner left right =>
    if inner = junction then left.seed junction else .join inner left right
  | p => p

/-- The operands behind the first. -/
def steps (junction : Junction) : Predicate → List Predicate
  | .join inner left right => if inner = junction then left.steps junction ++ [right] else []
  | _ => []

def size : Predicate → Nat
  | .atom _ => 1
  | .constant _ => 1
  | .join _ left right => left.size + right.size + 1

/-- A predicate as an operand of a junction. -/
def operandPieces (junction : Junction) (p : Predicate) : List Piece :=
  wrap (p.isBare false junction) p.pieces

variable {junction : Junction}

theorem foldl_steps_settled (junction : Junction) (p : Predicate) :
    (p.steps junction).foldl (fun left right => .join junction left right.settled)
      (p.seed junction).settled = p.settled := by
  induction p with
  | atom a => rfl
  | constant value => rfl
  | join inner left right ihl ihr =>
    by_cases h : inner = junction
    · subst h
      simp only [steps, seed, if_true, List.foldl_append, List.foldl_cons, List.foldl_nil, ihl,
        settled]
    · simp only [steps, seed, if_neg h, List.foldl_nil]

theorem steps_of_not_join {p : Predicate} (h : ∀ left right, p ≠ .join junction left right) :
    p.steps junction = [] ∧ p.seed junction = p ∧
      p.isBare true junction = p.isBare false junction := by
  cases p with
  | atom a => obtain ⟨column, _ | _ | _ | _ | _⟩ := a <;> exact ⟨rfl, rfl, rfl⟩
  | constant value => exact ⟨rfl, rfl, rfl⟩
  | join inner left right =>
    have hne : inner ≠ junction := by
      rintro rfl
      exact h left right rfl
    simp [steps, seed, isBare, hne]

theorem pieces_join (left right : Predicate) :
    (Predicate.join junction left right).pieces =
      wrap (left.isBare true junction) left.pieces ++
        .text junction.sql :: operandPieces junction right := rfl

/-- A row of operands is written one after another, each in parentheses if it needs them. -/
theorem pieces_spine (left right : Predicate) :
    (Predicate.join junction left right).pieces =
      operandPieces junction ((Predicate.join junction left right).seed junction) ++
        ((Predicate.join junction left right).steps junction).flatMap fun p =>
          .text junction.sql :: operandPieces junction p := by
  simp only [seed, steps, if_true, List.flatMap_append, List.flatMap_cons, List.flatMap_nil,
    List.append_nil]
  rw [pieces_join, ← List.append_assoc]
  congr 1
  by_cases h : ∃ left₁ right₁, left = .join junction left₁ right₁
  · -- On the left a junction of the same kind is a shorter row.
    obtain ⟨left₁, right₁, rfl⟩ := h
    have hbare : (Predicate.join junction left₁ right₁).isBare true junction = true := by
      simp [isBare]
    rw [hbare, wrap, if_pos rfl]
    exact pieces_spine left₁ right₁
  · push Not at h
    obtain ⟨hsteps, hseed, hbare⟩ := steps_of_not_join h
    rw [hsteps, hseed, hbare, List.flatMap_nil, List.append_nil, operandPieces]

theorem size_pos (p : Predicate) : 0 < p.size := by
  cases p <;> simp [size]

theorem size_seed_le (junction : Junction) (p : Predicate) : (p.seed junction).size ≤ p.size := by
  induction p with
  | join inner left right ihl ihr =>
    simp only [seed]
    split
    · simp only [size]; omega
    · exact Nat.le_refl _
  | atom a => exact Nat.le_refl _
  | constant value => exact Nat.le_refl _

theorem size_steps_lt {p q : Predicate} (h : q ∈ p.steps junction) : q.size < p.size := by
  induction p with
  | join inner left right ihl ihr =>
    simp only [steps] at h
    split at h
    · simp only [size]
      rcases List.mem_append.1 h with hleft | hright
      · have := ihl hleft; omega
      · obtain rfl := List.mem_singleton.1 hright; omega
    · cases h
  | atom a => cases h
  | constant value => cases h

theorem length_steps_lt (junction : Junction) (p : Predicate) :
    (p.steps junction).length < p.size := by
  induction p with
  | join inner left right ihl ihr =>
    simp only [steps]
    split
    · simp only [size, List.length_append, List.length_singleton]; omega
    · exact size_pos _
  | atom a => exact Nat.one_pos
  | constant value => exact Nat.one_pos

theorem size_seed_join_lt (junction : Junction) (left right : Predicate) :
    ((Predicate.join junction left right).seed junction).size <
      (Predicate.join junction left right).size := by
  have := size_seed_le junction left
  simp only [seed, if_true, size]
  omega

end Predicate

/-! ## Reading predicates -/

/-- What may stand behind a predicate: a blank or the parenthesis that closes, but no keyword of
some. -/
def Ends (keywords : List String) (rest : List Char) : Prop :=
  GoesOn endsTest rest ∧ ∀ keyword ∈ keywords, ¬ keyword.toList <+: rest

theorem ends_text {keywords : List String} {text : String} {c : Char}
    (ht : text.toList.head? = some c) (hc : endsTest c = true)
    (hfree : keywords.all (incomparable · text) = true) (more : List Piece) (n : Nat)
    (rest : List Char) : Ends keywords (Piece.write dialect n (.text text :: more) ++ rest) := by
  refine ⟨goesOn_text ht hc more n rest, ?_⟩
  intro keyword hkeyword
  rw [Piece.write, List.append_assoc]
  exact not_prefix_of_incomparable (List.all_eq_true.1 hfree keyword hkeyword) _

/-- Further operands, up to a text that does not begin with the junction. -/
theorem reads_joined {junction : Junction} {item : Reader Predicate}
    {write : Predicate → List Piece} {steps : List Predicate}
    (hitem : ∀ p ∈ steps, ReadsBefore dialect before item (write p) p.settled)
    (hnext : ∀ (n : Nat) (more : List Piece) (rest : List Char),
      before (Piece.write dialect n (.text junction.sql :: more) ++ rest))
    (hend : ∀ rest, before' rest → before rest ∧ ¬ junction.sql.toList <+: rest) {fuel : Nat}
    (hfuel : steps.length < fuel) (left : Predicate) :
    ReadsBefore dialect before' (Reader.joined junction item fuel left)
      (steps.flatMap fun p => .text junction.sql :: write p)
      (steps.foldl (fun left p => .join junction left p.settled) left) := by
  induction steps generalizing fuel left with
  | nil =>
    obtain ⟨fuel, rfl⟩ : ∃ k, fuel = k + 1 := ⟨fuel - 1, by omega⟩
    intro n rest values hr
    have hskip := skip_of_not_prefix (hend rest hr).2 n values
    exact Reader.orElse_of_none (Reader.bind_of_none hskip)
  | cons p steps ih =>
    obtain ⟨fuel, rfl⟩ : ∃ k, fuel = k + 1 := ⟨fuel - 1, by omega⟩
    have hmore := ih (fun q hq => hitem q (List.mem_cons_of_mem _ hq))
      (Nat.lt_of_succ_lt_succ hfuel) (.join junction left p.settled)
    have hgo : ∀ (n : Nat) (rest : List Char), before' rest →
        before (Piece.write dialect n
          (steps.flatMap fun p => .text junction.sql :: write p) ++ rest) := by
      intro n rest hr
      cases steps with
      | nil => exact (hend rest hr).1
      | cons q steps => exact hnext n _ rest
    intro n rest values hr
    exact Reader.orElse_of_some
      (((hitem p List.mem_cons_self).bind hmore hgo).skip junction.sql n rest values hr)

theorem reads_operands {junction : Junction} {item : Reader Predicate}
    {write : Predicate → List Piece} {seed : Predicate} {steps : List Predicate}
    {first : List Piece} (hseed : ReadsBefore dialect before item first seed)
    (hitem : ∀ p ∈ steps, ReadsBefore dialect before item (write p) p.settled)
    (hnext : ∀ (n : Nat) (more : List Piece) (rest : List Char),
      before (Piece.write dialect n (.text junction.sql :: more) ++ rest))
    (hend : ∀ rest, before' rest → before rest ∧ ¬ junction.sql.toList <+: rest) {fuel : Nat}
    (hfuel : steps.length < fuel) :
    ReadsBefore dialect before' (Reader.operands junction item fuel)
      (first ++ steps.flatMap fun p => .text junction.sql :: write p)
      (steps.foldl (fun left p => .join junction left p.settled) seed) := by
  refine hseed.bind (reads_joined hitem hnext hend hfuel seed) ?_
  intro n rest hr
  cases steps with
  | nil => exact (hend rest hr).1
  | cons q steps => exact hnext n _ rest

/-- A single operand is a row of its own. -/
theorem reads_operands_single {junction : Junction} {item : Reader Predicate} {p : Predicate}
    (h : ReadsBefore dialect before item pieces p)
    (hend : ∀ rest, before' rest → before rest ∧ ¬ junction.sql.toList <+: rest)
    (fuel : Nat) :
    ReadsBefore dialect before' (Reader.operands junction item (fuel + 1)) pieces p := by
  intro n rest values hr
  have hskip := skip_of_not_prefix (hend rest hr).2 (n + (binds pieces).length) values
  have hjoined : Reader.joined junction item (fuel + 1) p
      ⟨rest, n + (binds pieces).length, values⟩ =
        some (p, ⟨rest, n + (binds pieces).length, values⟩) :=
    Reader.orElse_of_none (Reader.bind_of_none hskip)
  exact (Reader.bind_of_some (h n rest values (hend rest hr).1)).trans hjoined

/-! ### Operands -/

theorem name_of_head_ne {chars : List Char} (h : chars.head? ≠ some '"') (n : Nat)
    (values : List Bound) : Reader.name ⟨chars, n, values⟩ = none := by
  simp only [Reader.name]
  split
  · exact absurd rfl h
  · rfl

theorem atom_of_head_ne {chars : List Char} (h : chars.head? ≠ some '"') (n : Nat)
    (values : List Bound) : Reader.atom dialect ⟨chars, n, values⟩ = none :=
  Reader.bind_of_none (Reader.bind_of_none (name_of_head_ne h n values))

theorem constants_of_head_ne {chars : List Char} (hs : chars.head? ≠ some '?')
    (hp : chars.head? ≠ some '$') (n : Nat) (values : List Bound) :
    Reader.constants dialect ⟨chars, n, values⟩ = none := by
  have hafter : Reader.afterPlaceholder? dialect n chars = none := by
    unfold Reader.afterPlaceholder?
    split
    · exact absurd rfl hs
    · exact absurd rfl hp
    · rfl
  have hbound : Reader.bound dialect ⟨chars, n, values⟩ = none := by
    simp only [Reader.bound, hafter]
  exact Reader.bind_of_none hbound

variable {inner : Reader Predicate}

/-- A parenthesis or a constant is no test of a column and no placeholder. -/
theorem reads_operand_keyword {keyword : String} {next : Reader Predicate} {a : Predicate}
    (hmem : (keyword, next) ∈
      [("(", do let p ← inner; Reader.skip ")"; return p), ("TRUE", return .constant true),
        ("FALSE", return .constant false)])
    (h : Reads dialect endsTest next pieces a) :
    Reads dialect endsTest (Reader.operand dialect inner) (.text keyword :: pieces) a := by
  have hhead : ∃ c ∈ ['(', 'T', 'F'], keyword.toList.head? = some c := by
    simp only [List.mem_cons, Prod.mk.injEq, List.not_mem_nil, or_false] at hmem
    rcases hmem with ⟨rfl, -⟩ | ⟨rfl, -⟩ | ⟨rfl, -⟩ <;> exact ⟨_, by decide, rfl⟩
  obtain ⟨c, hc, hhead⟩ := hhead
  intro n rest values hr
  have hchars : (Piece.write dialect n (.text keyword :: pieces) ++ rest).head? = some c := by
    rw [Piece.write, List.append_assoc, List.head?_append, hhead, Option.some_or]
  have hne : ∀ d ∈ ['"', '?', '$'],
      (Piece.write dialect n (.text keyword :: pieces) ++ rest).head? ≠ some d := by
    intro d hd heq
    rw [hchars, Option.some.injEq] at heq
    subst heq
    simp only [List.mem_cons, List.not_mem_nil, or_false] at hc
    rcases hc with rfl | rfl | rfl <;> exact absurd hd (by decide)
  rw [Reader.operand, Reader.orElse_of_none (atom_of_head_ne (hne '"' (by simp)) n _),
    Reader.orElse_of_none (constants_of_head_ne (hne '?' (by simp)) (hne '$' (by simp)) n _)]
  refine reads_choose hmem ?_ h n rest values hr
  simp only [List.map_cons, List.map_nil]
  decide

theorem reads_constants (left right : Bound) :
    Reads dialect endsTest (Reader.operand dialect inner)
      [.bind left, .text " = ", .bind right] (.constant (left = right)) := by
  intro n rest values hr
  have hne : (Piece.write dialect n [.bind left, .text " = ", .bind right] ++ rest).head? ≠
      some '"' := by
    cases dialect <;> simp [Piece.write, placeholder]
  rw [Reader.operand, Reader.orElse_of_none (atom_of_head_ne hne n _)]
  have hright : Reads dialect isPlain
      (do let right ← Reader.bound dialect; return Predicate.constant (left = right))
      [.bind right] (.constant (left = right)) := (reads_bound right).map _
  have hread : Reads dialect isPlain (Reader.constants dialect)
      [.bind left, .text " = ", .bind right] (.constant (left = right)) :=
    (reads_bound left).bind_skip (c := ' ') rfl (by decide) hright
  exact Reader.orElse_of_some (hread n rest values fun c hc => isPlain_of_endsTest (hr c hc))

/-- What holds no junction is read without parentheses. -/
theorem reads_operand_of_not_join {p : Predicate}
    (h : ∀ junction left right, p ≠ .join junction left right) :
    Reads dialect endsTest (Reader.operand dialect inner) p.pieces p.settled := by
  cases p with
  | join junction left right => exact absurd rfl (h junction left right)
  | constant value =>
    have hread : Reads dialect endsTest (return .constant value : Reader Predicate) []
        (.constant value) := Reads.pure _
    cases value with
    | true => exact reads_operand_keyword (by simp) hread
    | false => exact reads_operand_keyword (by simp) hread
  | atom a =>
    by_cases hempty : ∃ negated, a.test = .member negated []
    · obtain ⟨column, test⟩ := a
      obtain ⟨negated, rfl⟩ := hempty
      have hconstants : Reads dialect endsTest (Reader.operand dialect inner)
          [.bind (.literal 1), .text " = ", .bind (.literal (if negated then 1 else 2))] _ :=
        reads_constants _ _
      cases negated <;> exact hconstants
    · push Not at hempty
      have hsettled : (Predicate.atom a).settled = .atom a := by
        obtain ⟨column, test⟩ := a
        cases test with
        | member negated values =>
          cases values with
          | nil => exact absurd rfl (hempty negated)
          | cons value values => rfl
        | _ => rfl
      rw [hsettled]
      exact (reads_atom hempty).orElse

/-- An operand is read as it stands, or between its parentheses. -/
theorem reads_operandPieces {junction : Junction} {p : Predicate}
    (h : ReadsBefore dialect (Ends [" AND ", " OR "]) inner p.pieces p.settled) :
    Reads dialect endsTest (Reader.operand dialect inner) (p.operandPieces junction)
      p.settled := by
  rw [Predicate.operandPieces]
  cases hbare : p.isBare false junction with
  | true =>
    refine reads_operand_of_not_join ?_
    rintro inner left right rfl
    simp [Predicate.isBare] at hbare
  | false =>
    have hclose : Reads dialect endsTest (do Reader.skip ")"; return p.settled) [.text ")"]
        p.settled := Reads.skip ")" (Reads.pure _)
    have hread : Reads dialect endsTest (do let p ← inner; Reader.skip ")"; return p)
        (p.pieces ++ [.text ")"]) p.settled :=
      ReadsBefore.bind h hclose fun n rest _ => ends_text rfl (by decide) (by decide) [] n rest
    exact reads_operand_keyword (by simp) hread

/-! ### Rows of operands -/

theorem reads_predicate {fuel : Nat} {p : Predicate} (h : p.size ≤ fuel) :
    ReadsBefore dialect (Ends [" AND ", " OR "]) (Reader.predicate dialect fuel) p.pieces
      p.settled := by
  -- By the fuel: what stands between parentheses is smaller than the predicate.
  induction fuel generalizing p with
  | zero => exact absurd h (by have := p.size_pos; omega)
  | succ fuel ih =>
    have hoperand : ∀ (junction : Junction) (q : Predicate), q.size < p.size →
        ReadsBefore dialect (GoesOn endsTest)
          (Reader.operand dialect (Reader.predicate dialect fuel)) (q.operandPieces junction)
          q.settled :=
      fun junction q hq => reads_operandPieces (ih (by omega))
    have hall : ∀ rest, Ends [" AND "] rest →
        GoesOn endsTest rest ∧ ¬ Junction.all.sql.toList <+: rest :=
      fun rest hr => ⟨hr.1, hr.2 _ (by simp [Junction.sql])⟩
    have hany : ∀ rest, Ends [" AND ", " OR "] rest →
        Ends [" AND "] rest ∧ ¬ Junction.any.sql.toList <+: rest := by
      intro rest hr
      refine ⟨⟨hr.1, fun k hk => hr.2 k ?_⟩, hr.2 _ (by simp [Junction.sql])⟩
      exact List.mem_cons.2 (.inl (List.mem_singleton.1 hk))
    have hsteps : ∀ junction : Junction, (p.steps junction).length < fuel + 1 := by
      intro junction
      have := p.length_steps_lt junction
      omega
    rw [Reader.predicate]
    by_cases hjoin : ∃ junction left right, p = .join junction left right
    · obtain ⟨junction, left, right, rfl⟩ := hjoin
      have hseed := Predicate.size_seed_join_lt junction left right
      rw [Predicate.pieces_spine, ← Predicate.foldl_steps_settled junction]
      cases junction with
      | all =>
        refine reads_operands_single ?_ hany fuel
        exact reads_operands (hoperand .all _ hseed)
          (fun q hq => hoperand .all q (Predicate.size_steps_lt hq))
          (fun n more rest => goesOn_text rfl (by decide) more n rest) hall (hsteps .all)
      | any =>
        exact reads_operands (reads_operands_single (hoperand .any _ hseed) hall fuel)
          (fun q hq =>
            reads_operands_single (hoperand .any q (Predicate.size_steps_lt hq)) hall fuel)
          (fun n more rest => ends_text rfl (by decide) (by decide) more n rest) hany (hsteps .any)
    · push Not at hjoin
      have hone : ReadsBefore dialect (GoesOn endsTest)
          (Reader.operand dialect (Reader.predicate dialect fuel)) p.pieces p.settled :=
        reads_operand_of_not_join hjoin
      exact reads_operands_single (reads_operands_single hone hall fuel) hany fuel

/-! ### WHERE clauses -/

theorem length_write_le_wrap (dialect : Dialect) (bare : Bool) (n : Nat) (pieces : List Piece) :
    (Piece.write dialect n pieces).length ≤
      (Piece.write dialect n (Predicate.wrap bare pieces)).length := by
  cases bare with
  | true => exact Nat.le_refl _
  | false =>
    rw [Predicate.wrap, if_neg Bool.false_ne_true, List.cons_append, Piece.write, write_append,
      List.length_append, List.length_append]
    omega

theorem length_write_atom_pos (dialect : Dialect) (a : Atom) (n : Nat) :
    0 < (Piece.write dialect n a.pieces).length := by
  have hcolumn : ∀ more : List Piece,
      0 < (Piece.write dialect n (a.column.pieces ++ more)).length := by
    intro more
    obtain ⟨⟨_ | qualifier, name⟩, test⟩ := a <;> simp [ColumnRef.pieces, Piece.write, quoteName]
  by_cases hempty : ∃ negated, a.test = .member negated []
  · obtain ⟨column, test⟩ := a
    obtain ⟨negated, rfl⟩ := hempty
    cases dialect <;> simp [Atom.pieces, Piece.write, placeholder]
  · push Not at hempty
    obtain ⟨keyword, pieces, next, hpieces, -⟩ := exists_pieces_test dialect a.column hempty
    rw [show a.pieces = _ from hpieces]
    exact hcolumn _

/-- Every part of a predicate takes at least one character. -/
theorem size_le_length_write (dialect : Dialect) (p : Predicate) (n : Nat) :
    p.size ≤ (Piece.write dialect n p.pieces).length := by
  induction p generalizing n with
  | atom a => exact length_write_atom_pos dialect a n
  | constant value => cases value <;> simp [Predicate.size, Predicate.pieces, Piece.write]
  | join junction left right ihl ihr =>
    have hleft : left.size ≤
        (Piece.write dialect n (Predicate.wrap (left.isBare true junction) left.pieces)).length :=
      Nat.le_trans (ihl n) (length_write_le_wrap dialect _ n left.pieces)
    have hright : ∀ m, right.size ≤
        (Piece.write dialect m (Predicate.operandPieces junction right)).length :=
      fun m => Nat.le_trans (ihr m) (length_write_le_wrap dialect _ m right.pieces)
    have hkeyword : 0 < junction.sql.toList.length := by cases junction <;> decide
    rw [Predicate.size, Predicate.pieces_join, write_append, Piece.write, List.length_append,
      List.length_append]
    have := hright (n + (binds (Predicate.wrap (left.isBare true junction) left.pieces)).length)
    omega

/-- A WHERE clause is read as the predicate of its groups taken together. -/
theorem reads_wherePieces (groups : List Group) :
    ReadsBefore dialect (Ends [" AND ", " OR ", " WHERE "]) (Reader.whereClause dialect)
      (wherePieces groups) ((Group.joinAll? groups).map fun group => group.predicate.settled) := by
  cases hgroups : Group.joinAll? groups with
  | none =>
    rw [wherePieces, hgroups]
    intro n rest values hr
    have hskip := skip_of_not_prefix (hr.2 " WHERE " (by simp)) n values
    exact Reader.orElse_of_none (Reader.bind_of_none hskip)
  | some group =>
    rw [wherePieces, hgroups]
    have hread : ReadsBefore dialect (Ends [" AND ", " OR ", " WHERE "])
        (fun unread => Reader.predicate dialect (unread.chars.length + 1) unread)
        group.predicate.pieces group.predicate.settled := by
      intro n rest values hr
      refine reads_predicate ?_ n rest values ⟨hr.1, fun k hk => hr.2 k ?_⟩
      · have hsize := size_le_length_write dialect group.predicate n
        rw [List.length_append]
        omega
      · exact List.mem_append_left [" WHERE "] hk
    intro n rest values hr
    exact Reader.orElse_of_some ((hread.map some).skip " WHERE " n rest values hr)

/-! ## Meaning -/

/-- Where nothing is among no values, a clause is true of the same rows as the one that is read. -/
theorem Predicate.holds_settled {truth : Atom → Bool}
    (h : ∀ column negated, truth ⟨column, .member negated []⟩ = negated) (p : Predicate) :
    p.settled.holds truth = p.holds truth := by
  induction p with
  | atom a =>
    obtain ⟨column, _ | _ | ⟨negated, _ | _⟩ | _ | _⟩ := a
    case member.nil => exact (h column negated).symm
    all_goals rfl
  | constant b => rfl
  | join junction left right ihl ihr =>
    rw [settled]
    cases junction <;> rw [holds, holds, ihl, ihr]

/-- The value of a test, where a test for membership of nothing has one of its own. -/
def decided (value : Atom → Option Bool) (a : Atom) : Option Bool :=
  match a.test with
  | .member negated [] => some negated
  | _ => value a

theorem Predicate.eval_settled (value : Atom → Option Bool) (p : Predicate) :
    p.settled.eval value = p.eval (decided value) := by
  induction p with
  | atom a =>
    obtain ⟨column, _ | _ | ⟨negated, _ | _⟩ | _ | _⟩ := a <;> rfl
  | constant b => rfl
  | join junction left right ihl ihr => rw [settled, eval, eval, ihl, ihr]

end Sql
end FilterSql

import FilterSql.Filter.Condition
import FilterSql.Schema.Column
import FilterSql.Sql.Predicate

/-!
# FilterSql.Filter.Compile

Turning conditions into tests of columns.

* `Condition.atom`: the test of one condition, which depends on that condition alone.
* `ParamNames`: names for the bound values, distinct within one statement.
* `compile`: all conditions of a filter, or the error of the first that is not admissible.
-/

namespace FilterSql

/-- The values bound under one name; a list test binds several. -/
structure NamedParam where
  name : String
  values : List Bound
deriving DecidableEq

structure CompiledCondition where
  column : String
  operator : Operator
  atom : Sql.Atom
  params : List NamedParam
deriving DecidableEq

def CompiledCondition.base (c : CompiledCondition) : String := baseColumn c.column

/-! ## Tests -/

namespace Condition

/-- Equality: with a list it is membership, with NULL a test for NULL, which the column must be
known to accept. -/
def equality (known : Option TableColumns) (c : Condition) (negated : Bool) :
    Except Error Sql.Test :=
  match c.value with
  | .arr items =>
    match Bound.ofItems c.column items with
    | .error e => .error e
    | .ok values => .ok (.member negated values)
  | .null =>
    if (known.bind fun t => t.acceptsNull? c.base).getD false then .ok (.null negated)
    else .error (.invalidArgument (.nullRefused c.column))
  | value =>
    match Bound.ofJson c.column value with
    | .error e => .error e
    | .ok value => .ok (.compare (if negated then .ne else .eq) value)

/-- A range needs a list of exactly two values. -/
def range (c : Condition) (negated : Bool) : Except Error Sql.Test :=
  match c.value with
  | .arr [low, high] =>
    match Bound.ofJson c.column low with
    | .error e => .error e
    | .ok low =>
      match Bound.ofJson c.column high with
      | .error e => .error e
      | .ok high => .ok (.between negated low high)
  | _ => .error (.invalidArgument (.betweenNotPair c.column))

/-- A pattern is a text, or a number by its text. -/
def pattern (c : Condition) (negated : Bool) : Except Error Sql.Test :=
  match c.value with
  | .null => .error (.invalidArgument (.nullCompared c.operator c.column))
  | .str s => .ok (.like negated s)
  | .num n => .ok (.like negated n.text)
  | _ => .error (.invalidArgument (.patternNotText c.operator c.column))

def order (c : Condition) (op : Sql.Comparison) : Except Error Sql.Test :=
  match c.value with
  | .null => .error (.invalidArgument (.nullCompared c.operator c.column))
  | .arr _ => .error (.invalidArgument (.arrayCompared c.operator c.column))
  | value =>
    match Bound.ofJson c.column value with
    | .error e => .error e
    | .ok value => .ok (.compare op value)

def test (known : Option TableColumns) (c : Condition) : Except Error Sql.Test :=
  match c.operator with
  | .eq => c.equality known false
  | .ne => c.equality known true
  | .lt => c.order .lt
  | .le => c.order .le
  | .gt => c.order .gt
  | .ge => c.order .ge
  | .like => c.pattern false
  | .notLike => c.pattern true
  | .between => c.range false
  | .notBetween => c.range true

def atom (known : Option TableColumns) (target : ColumnTarget) (c : Condition) :
    Except Error Sql.Atom :=
  match c.test known with
  | .error e => .error e
  | .ok test => .ok ⟨ColumnRef.of target c.column, test⟩

end Condition

/-! ## Names -/

/-- The names already given. -/
abbrev ParamNames := List String

namespace ParamNames

/-- The least free one of `name`, `name2`, `name3`, … -/
def free (used : ParamNames) (name : String) : String :=
  if used.contains name then
    let numbered := (List.range (used.length + 1)).map fun k => name ++ toString (k + 2)
    (numbered.find? fun n => !used.contains n).getD name
  else name

/-- The base name if it is free, or else the base name with a role. -/
def choose (used : ParamNames) (base role : String) : String :=
  if used.contains base then used.free (base ++ role) else base

/-- The parameters of a test on a column, and the names given afterwards. -/
def assign (used : ParamNames) (base : String) (op : Operator) :
    Sql.Test → List NamedParam × ParamNames
  | .null _ => ([], used)
  | .between _ low high =>
    let lowName := used.free (base ++ "GreaterThan")
    let used : ParamNames := lowName :: used
    let highName := used.free (base ++ "LessThan")
    ([⟨lowName, [low]⟩, ⟨highName, [high]⟩], highName :: used)
  | .member negated values =>
    let name := used.choose base (if negated then "NotIn" else "In")
    ([⟨name, values⟩], name :: used)
  | .like _ pattern =>
    let name := used.choose base op.role
    ([⟨name, [.text pattern]⟩], name :: used)
  | .compare _ value =>
    let name := used.choose base op.role
    ([⟨name, [value]⟩], name :: used)

end ParamNames

/-! ## Whole filters -/

def compileFrom (known : Option TableColumns) (target : ColumnTarget) (used : ParamNames) :
    List Condition → Except Error (List CompiledCondition)
  | [] => .ok []
  | c :: rest =>
    match c.atom known target with
    | .error e => .error e
    | .ok atom =>
      let (params, used) := used.assign c.base c.operator atom.test
      match compileFrom known target used rest with
      | .error e => .error e
      | .ok compiled => .ok (⟨c.column, c.operator, atom, params⟩ :: compiled)

def compile (conditions : List Condition) (known : Option TableColumns) (target : ColumnTarget) :
    Except Error (List CompiledCondition) :=
  compileFrom known target [] conditions

namespace CompiledCondition

/-- Whether a column is tested, under whatever alias. -/
def references (compiled : List CompiledCondition) (column : String) : Bool :=
  compiled.any fun c => c.base == baseColumn column

def namedParams (compiled : List CompiledCondition) : List String :=
  compiled.flatMap fun c => c.params.map NamedParam.name

/-- The conditions as groups of a WHERE clause. -/
def groups (compiled : List CompiledCondition) : List Sql.Group :=
  compiled.map fun c => .all [.atom c.atom]

end CompiledCondition
end FilterSql

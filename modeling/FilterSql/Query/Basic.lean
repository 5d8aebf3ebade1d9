import FilterSql.Query.Change
import FilterSql.Query.Select

/-!
# FilterSql.Query.Basic

A query that reads or changes rows; what it is can be asked, and it can be taken as what it is
expected to be.
-/

namespace FilterSql

inductive Query where
  | select (query : SelectQuery)
  | update (query : UpdateQuery)
  | delete (query : DeleteQuery)

namespace Query

def kind : Query → QueryKind
  | .select _ => .select
  | .update _ => .update
  | .delete _ => .delete

def table : Query → String
  | .select q => q.table
  | .update q => q.table
  | .delete q => q.table

def conditions : Query → List CompiledCondition
  | .select q => q.conditions
  | .update q => q.conditions
  | .delete q => q.conditions

def toSelect : Query → Except Error SelectQuery
  | .select q => .ok q
  | q => .error (.invalidArgument (.notSelect q.kind))

def toUpdate : Query → Except Error UpdateQuery
  | .update q => .ok q
  | q => .error (.invalidArgument (.notUpdate q.kind))

/-- The columns set, and then the names of the values of the filter. -/
def namedParams : Query → List String
  | .update q => q.assignments.map Assignment.column ++ CompiledCondition.namedParams q.conditions
  | q => CompiledCondition.namedParams q.conditions

def statement (dialect : Dialect) : Query → Statement
  | .select q => q.statement dialect
  | .update q => q.statement dialect
  | .delete q => q.statement dialect

end Query
end FilterSql

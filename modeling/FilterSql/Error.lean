import FilterSql.Filter.Operator
import FilterSql.Text.Quoted

/-!
# FilterSql.Error

What can go wrong, as causes, and the one place where each cause gets its wording.

* `Fault`: an argument that the library rejects.
* `BackendError`: a failure of the database or of the way to it.
* `Error`: every error of the library, with its `code` and `message`.
-/

namespace FilterSql

inductive QueryKind where
  | select
  | update
  | delete
deriving DecidableEq

def QueryKind.name : QueryKind → String
  | .select => "SELECT"
  | .update => "UPDATE"
  | .delete => "DELETE"

/-! ## Rejected arguments -/

inductive Fault where
  /-- A text given by a caller, such as a modifier. -/
  | stated (text : String)
  | keyWithoutColumn (key : String)
  | betweenNotPair (column : String)
  | nullRefused (column : String)
  | nullCompared (op : Operator) (column : String)
  | patternNotText (op : Operator) (column : String)
  | arrayCompared (op : Operator) (column : String)
  | integerTooLarge (value : Int) (column : String)
  | nestedArray (column : String)
  | nullBound (column : String)
  | sortOrder (text : String)
  | notSelect (kind : QueryKind)
  | notUpdate (kind : QueryKind)
  | rowWidth (values columns : Nat)
  | unknownTable (table : String)
  | nothingToSet
  | unfilteredUpdate (table : String)
  | unfilteredDelete (table : String)
  | assignmentKey (key : String)
  | countNotSelect (kind : QueryKind)
  | countGrouped
  | countMissing (column : String)
  | countNotNatural (column : String) (value : String)
  | executeSelect
  | rowsWithoutColumns
  | rowColumns (index : Nat) (keys expected : List String)
  | pageSize
  | pageOutside (last : Nat)
  | seekGrouped
  | cursorText (text : String)
  | cursorColumns (token : String) (expected : List String)
  | cursorNull (column : String)
  | seekColumnMissing (column : String)
  | seekColumnNull (column : String)
deriving DecidableEq

def Fault.message : Fault → String
  | .stated text => text
  | .keyWithoutColumn key => s!"filter key '{key}' does not name a column"
  | .betweenNotPair column => s!"BETWEEN value must be a 2 item array (column '{column}')"
  | .nullRefused column => s!"column '{column}' does not accept NULL"
  | .nullCompared op column => s!"NULL cannot be compared with '{op.sql}' (column '{column}')"
  | .patternNotText op column => s!"{op.sql} value must be a string (column '{column}')"
  | .arrayCompared op column => s!"array value is not allowed with '{op.sql}' (column '{column}')"
  | .integerTooLarge value column => s!"integer {value} is out of range (column '{column}')"
  | .nestedArray column => s!"nested arrays are not allowed (column '{column}')"
  | .nullBound column => s!"NULL cannot be bound as a parameter (column '{column}')"
  | .sortOrder text => s!"invalid sort order: {text}"
  | .notSelect kind => s!"expected a SELECT query, got {kind.name}"
  | .notUpdate kind => s!"expected an UPDATE query, got {kind.name}"
  | .rowWidth values columns => s!"row has {values} values but {columns} columns were declared"
  | .unknownTable table => s!"table '{table}' has no columns"
  | .nothingToSet => "update requires at least one column to set"
  | .unfilteredUpdate table =>
    s!"refusing to update every row of '{table}' without a where clause"
  | .unfilteredDelete table =>
    s!"refusing to delete every row of '{table}' without a where clause"
  | .assignmentKey key => s!"update key '{key}' must be a plain column name"
  | .countNotSelect kind => s!"count requires a SELECT query, got {kind.name}"
  | .countGrouped => "count is ambiguous for a grouped query"
  | .countMissing column => s!"count query returned no '{column}' column"
  | .countNotNatural column value => s!"count query returned a non-integer '{column}': {value}"
  | .executeSelect => "execute expects an UPDATE or DELETE query"
  | .rowsWithoutColumns => "rows must have at least one column"
  | .rowColumns index keys expected =>
    let found := Text.setText keys
    let wanted := Text.setText expected
    s!"row {index} has columns {found}, expected {wanted}"
  | .pageSize => "Page size must be greater than 0"
  | .pageOutside last => s!"Page must be between 1 and {last}"
  | .seekGrouped => "seek paging is not supported for grouped queries"
  | .cursorText text => s!"invalid seek cursor '{text}'"
  | .cursorColumns token expected =>
    let wanted := Text.listText expected
    s!"seek cursor {token} does not match ordering columns {wanted}"
  | .cursorNull column => s!"seek cursor value for '{column}' is NULL"
  | .seekColumnMissing column => s!"seek column '{column}' is missing from the result row"
  | .seekColumnNull column => s!"seek column '{column}' is NULL"

/-! ## Failures below the library -/

/-- The constraint that a statement broke, as far as the database tells. -/
inductive Constraint where
  | unique
  | foreignKey
  | notNull
  | check
  | other
deriving DecidableEq

structure DatabaseError where
  kind : Constraint
  code : Option String
  message : String
deriving DecidableEq

inductive BackendError where
  | database (error : DatabaseError)
  | rowNotFound
  | poolTimedOut
  | poolClosed
  | workerCrashed
  | protocol (text : String)
  | columnNotFound (name : String)
  /-- A value of a result that does not decode as the type of its column. -/
  | undecodable
  /-- A row count that is no integer of the database, so that it cannot be sent, or a value of a
  result that is beyond all that can be read. Nothing can be done about it: a program ends there. -/
  | outOfRange
deriving DecidableEq

namespace BackendError

def message : BackendError → String
  | .database error => s!"error returned from database: {error.message}"
  | .rowNotFound => "no rows returned by a query that expected to return at least one row"
  | .poolTimedOut => "pool timed out while waiting for an open connection"
  | .poolClosed => "attempted to acquire a connection on a closed pool"
  | .workerCrashed => "attempted to communicate with a crashed background worker"
  | .protocol text => s!"encountered unexpected or invalid data: {text}"
  | .columnNotFound name => s!"no column found for name: {name}"
  | .undecodable => "error occurred while decoding"
  | .outOfRange => "value out of range"

/-- The codes by which databases report a duplicate key. -/
def duplicateCodes : List String := ["23505", "1062", "2067", "1555"]

/-- Whether a database refused a duplicate key: by the kind of the constraint, by the code, or by
the wording of the message. -/
def isDuplicate : BackendError → Bool
  | .database error =>
    error.kind = .unique || (error.code.any duplicateCodes.contains) ||
      Text.occursIn "UNIQUE constraint failed" error.message ||
      Text.occursIn "Duplicate entry" error.message
  | _ => false

end BackendError

/-! ## Errors of the library -/

inductive Error where
  | invalidArgument (fault : Fault)
  | constraintViolation (table : String) (source : BackendError)
  | backend (source : BackendError)
  | unsupportedType (column typeName : String)
  | config (key message : String)
deriving DecidableEq

namespace Error

def code : Error → String
  | .invalidArgument _ => "INVALID_ARGUMENT"
  | .constraintViolation _ _ => "CONSTRAINT_VIOLATION"
  | .backend _ => "BACKEND_FAILURE"
  | .unsupportedType _ _ => "UNSUPPORTED_TYPE"
  | .config _ _ => "CONFIG_ERROR"

def message : Error → String
  | .invalidArgument fault => s!"invalid argument: {fault.message}"
  | .constraintViolation table source => s!"duplicate key on table '{table}': {source.message}"
  | .backend source => s!"backend error: {source.message}"
  | .unsupportedType column typeName =>
    s!"unsupported column type '{typeName}' for column '{column}'"
  | .config key message => s!"invalid configuration {key}: {message}"

def isInvalidArgument : Error → Bool
  | .invalidArgument _ => true
  | _ => false

/-- Whether the error ends a program. -/
def isFatal (e : Error) : Bool := e = .backend .outOfRange

/-- Whether the error tells of a duplicate key. -/
def isDuplicate : Error → Bool
  | .constraintViolation _ _ => true
  | .backend source => source.isDuplicate
  | _ => false

end Error
end FilterSql

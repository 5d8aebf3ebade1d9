import FilterSql.Decimal.Bounded
import FilterSql.Error

/-!
# FilterSql.Config

The settings, read from named texts such as the environment.
-/

namespace FilterSql

structure Config where
  databaseUrl : String
  maxConnections : Nat
  maxBatchRows : Nat
  maxBindParams : Nat
  defaultPageSize : Nat
  idColumn : String
deriving DecidableEq

namespace Config

def default : Config where
  databaseUrl := "sqlite::memory:"
  maxConnections := 5
  maxBatchRows := 500
  maxBindParams := 32766
  defaultPageSize := 100
  idColumn := "id"

/-- A limit: blanks around the number do not matter. -/
def readLimit (lookup : String → Option String) (key : String) (bound fallback : Nat) :
    Except Error Nat :=
  match lookup key with
  | none => .ok fallback
  | some raw =>
    match Decimal.readBounded bound (Text.trim raw.toList) with
    | .ok n => .ok n
    | .error e => .error (.config key s!"'{raw}': {e.message}")

/-- A blank name counts as absent. -/
def readIdColumn (lookup : String → Option String) : String :=
  match (lookup "RK_ID_COLUMN").map Text.trimmed with
  | none => default.idColumn
  | some name => if name.isEmpty then default.idColumn else name

/-- The limits by name, in the order in which they are checked. -/
def limits (config : Config) : List (String × Nat) :=
  [("RK_MAX_CONNECTIONS", config.maxConnections), ("RK_MAX_BATCH_ROWS", config.maxBatchRows),
   ("RK_MAX_BIND_PARAMS", config.maxBindParams), ("RK_DEFAULT_PAGE_SIZE", config.defaultPageSize)]

/-- Every limit must be at least one. -/
def check (config : Config) : Except Error Config :=
  match config.limits.find? fun limit => limit.2 == 0 with
  | some (key, _) => .error (.config key "must be greater than 0")
  | none => .ok config

def fromLookup (lookup : String → Option String) : Except Error Config :=
  match readLimit lookup "RK_MAX_CONNECTIONS" Decimal.max32 default.maxConnections with
  | .error e => .error e
  | .ok maxConnections =>
    match readLimit lookup "RK_MAX_BATCH_ROWS" Decimal.max64 default.maxBatchRows with
    | .error e => .error e
    | .ok maxBatchRows =>
      match readLimit lookup "RK_MAX_BIND_PARAMS" Decimal.max64 default.maxBindParams with
      | .error e => .error e
      | .ok maxBindParams =>
        match readLimit lookup "RK_DEFAULT_PAGE_SIZE" Decimal.max64 default.defaultPageSize with
        | .error e => .error e
        | .ok defaultPageSize =>
          check {
            databaseUrl := (lookup "RK_DATABASE_URL").getD default.databaseUrl
            maxConnections, maxBatchRows, maxBindParams, defaultPageSize
            idColumn := readIdColumn lookup }

end Config
end FilterSql

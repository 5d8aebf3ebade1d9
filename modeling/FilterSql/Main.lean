import FilterSql.Cli.Outcome
import FilterSql.Database.Recording

/-!
# FilterSql.Main

The program: it runs a command on results that are read from the standard input, one to a line.
-/

namespace FilterSql

/-- The lines up to the end of the input. -/
partial def readLines (input : IO.FS.Stream) : IO (List String) := do
  let line ← input.getLine
  if line.isEmpty then return []
  let rest ← readLines input
  return line :: rest

/-- The variables that the settings come from. -/
def settingNames : List String :=
  ["RK_DATABASE_URL", "RK_MAX_CONNECTIONS", "RK_MAX_BATCH_ROWS", "RK_MAX_BIND_PARAMS",
   "RK_DEFAULT_PAGE_SIZE", "RK_ID_COLUMN"]

def readSettings : List String → IO (List (String × String))
  | [] => return []
  | name :: rest => do
    let more ← readSettings rest
    match ← IO.getEnv name with
    | some value => return (name, value) :: more
    | none => return more

end FilterSql

def main (words : List String) : IO UInt32 := do
  let lines ← FilterSql.readLines (← IO.getStdin)
  let results := lines.filterMap fun line =>
    (FilterSql.Json.parse? line).bind FilterSql.ResultSet.ofJson?
  let environment ← FilterSql.readSettings FilterSql.settingNames
  let outcome := FilterSql.Cli.run words (fun name => environment.lookup name) results
  IO.print outcome.stdout
  match outcome.message with
  | some message => IO.eprintln ("Error: " ++ message)
  | none => pure ()
  return UInt32.ofNat outcome.exit

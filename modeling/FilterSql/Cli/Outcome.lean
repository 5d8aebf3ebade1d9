import FilterSql.Cli.Command
import FilterSql.Database.InMemory
import FilterSql.Database.Recorded
import FilterSql.Database.Url

/-!
# FilterSql.Cli.Outcome

A whole run of the program: arguments and settings, then the command on the database of the
settings, and what is left to show for it. A PostgreSQL URL leads to a server with recorded results;
a SQLite URL stands for a database of the run's own, in memory and just opened.
-/

namespace FilterSql
namespace Cli

structure Outcome where
  exit : Nat
  stdout : String
  /-- The text of the error. -/
  message : Option String
  /-- What is logged of the settings. -/
  log : Option String
  /-- The calls of the server. -/
  calls : List Call

namespace Outcome

def refused : Refusal → Outcome
  | .help => ⟨0, "", none, none, []⟩
  | .version => ⟨0, "rk 0.1.0\n", none, none, []⟩
  | .misuse => ⟨2, "", none, none, []⟩

def failed (message : String) (log : Option String) : Outcome := ⟨1, "", some message, log, []⟩

/-- A fatal error has a code of its own and no message. -/
def fatal (stdout : String) (log : Option String) (calls : List Call) : Outcome :=
  ⟨101, stdout, none, log, calls⟩

/-- What is left of a run: what it printed, and the calls that reached the server. -/
def ended (result : Except Error Unit) (printed : Printed) (log : String) (calls : List Call) :
    Outcome :=
  let sent := calls.filter Call.isSendable
  match result with
  | .ok _ => ⟨0, String.ofList printed, none, some log, sent⟩
  | .error e =>
    if e.isFatal then fatal (String.ofList printed) (some log) sent
    else ⟨1, String.ofList printed, some e.message, some log, sent⟩

end Outcome

/-- The settings as they are logged, with a URL without its credentials; none if there is no such
URL. -/
def logText? (config : Config) : Option String :=
  (Url.redacted? config.databaseUrl).map fun url =>
    s!"database={url} max_connections={config.maxConnections} " ++
      s!"default_page_size={config.defaultPageSize} id_column={config.idColumn}"

/-- The settings of the environment; a URL among the arguments comes first. -/
def settings (lookup : String → Option String) (invocation : Invocation) : Except Error Config :=
  match Config.fromLookup lookup with
  | .error e => .error e
  | .ok config => .ok { config with databaseUrl := invocation.databaseUrl.getD config.databaseUrl }

/-- Runs a program from its start on a server. -/
def finish {σ : Type} (log : String) (server : σ) (program : Run (Printed × Session σ) Unit) :
    Outcome :=
  let (result, printed, session) := program ([], Session.start server)
  .ended result printed log session.calls

/-- Runs the command on a database; a walk over all pages ends after `limit` of them. -/
def runOn {σ : Type} (backend : Backend σ) (server : σ) (limit : Nat) (config : Config)
    (log : String) (invocation : Invocation) : Outcome :=
  match invocation.command.program ⟨backend.checked, config.settings, .empty⟩
      config.defaultPageSize limit invocation.format with
  | .error e => .failed e.message (some log)
  | .ok program => finish log server program

/-- On a server with recorded results a walk over all pages ends when none are left. -/
def runInvocation (lookup : String → Option String) (results : List ResultSet)
    (invocation : Invocation) : Outcome :=
  match settings lookup invocation with
  | .error e => .failed e.message none
  | .ok config =>
    match logText? config, Url.dialect config.databaseUrl with
    | none, _ => .fatal "" none []
    | some log, .error e => .failed e.message (some log)
    | some log, .ok .postgres =>
      runOn Recorded.backend results (results.length + 1) config log invocation
    | some log, .ok .sqlite =>
      { runOn (InMemory.backend invocation.command.table) () 1 config log invocation with
        calls := [] }

def run (words : List String) (lookup : String → Option String) (results : List ResultSet) :
    Outcome :=
  match parse words with
  | .error refusal => .refused refusal
  | .ok invocation => runInvocation lookup results invocation

end Cli
end FilterSql

import FilterSql.Decimal.Bounded
import FilterSql.Text.Cut

/-!
# FilterSql.Cli.Args

The arguments of the program: options before or behind the name of a command, and behind it the
arguments of that command.

* Options with a value are written `--name value` or `--name=value`; a value in a word of its
  own does not begin with `-`, unless it is `-` alone.
* Behind a word `--` all words are arguments of the command.
* `Given.scan`: one level of options, up to the first word that is none.
* `parse`: the whole line.
-/

namespace FilterSql
namespace Cli

inductive Format where
  | text
  | json
deriving DecidableEq

structure QueryArgs where
  table : String
  filter : Option String
  order : List String
deriving DecidableEq

inductive Command where
  | columns (table : String)
  | count (table : String) (filter : Option String)
  | page (query : QueryArgs) (page : Nat) (pageSize : Option Nat)
  | seek (query : QueryArgs) (cursor : Option String) (pageSize : Option Nat) (allPages : Bool)
deriving DecidableEq

/-- The table that a command is about. -/
def Command.table : Command → String
  | .columns table => table
  | .count table _ => table
  | .page query _ _ => query.table
  | .seek query _ _ _ => query.table

structure Invocation where
  databaseUrl : Option String
  format : Format
  command : Command
deriving DecidableEq

/-- Why a line does not run a command. -/
inductive Refusal where
  | help
  | version
  | misuse
deriving DecidableEq

/-! ## Options -/

inductive OptionKind where
  | text
  /-- A text that may be given more than once. -/
  | texts
  | natural
  | format
  | flag
deriving DecidableEq

abbrev OptionTable := List (String × OptionKind)

/-- The options that stand before or behind the name of the command. -/
def globalOptions : OptionTable := [("database-url", .text), ("format", .format)]

/-- What was given at one level, in order: options with their values, and arguments. -/
structure Given where
  options : List (String × String)
  arguments : List String

namespace Given

def empty : Given := ⟨[], []⟩

def all (g : Given) (name : String) : List String :=
  g.options.filterMap fun entry => if entry.1 == name then some entry.2 else none

def get? (g : Given) (name : String) : Option String := (g.all name).head?

end Given

def isValue (kind : OptionKind) (value : String) : Bool :=
  match kind with
  | .natural => (Decimal.readBounded Decimal.max64 value.toList).isOk
  | .format => value == "text" || value == "json"
  | _ => true

/-- One more option: a value that does not fit, and a second one where only one is allowed, are
refused. -/
def Given.addOption (g : Given) (kind : OptionKind) (name value : String) : Except Refusal Given :=
  if !isValue kind value || (kind != .texts && (g.get? name).isSome) then .error .misuse
  else .ok { g with options := g.options ++ [(name, value)] }

def Given.addArgument (g : Given) (limit : Nat) (word : String) : Except Refusal Given :=
  if g.arguments.length < limit then .ok { g with arguments := g.arguments ++ [word] }
  else .error .misuse

/-- All words as arguments. -/
def Given.addArguments (g : Given) (limit : Nat) : List String → Except Refusal Given
  | [] => .ok g
  | word :: rest =>
    match g.addArgument limit word with
    | .error e => .error e
    | .ok g => g.addArguments limit rest

inductive Word where
  | plain (word : String)
  | separator
  | help
  /-- A letter behind one `-`, or more of them. -/
  | short (letters : String)
  | long (name : String) (value : Option String)
deriving DecidableEq

def Word.ofText (word : String) : Word :=
  match word.toList with
  | ['-'] => .plain word
  | ['-', '-'] => .separator
  | '-' :: '-' :: rest =>
    match Text.cutFirst? (· == '=') rest with
    | some (name, value) => .long (String.ofList name) (some (String.ofList value))
    | none => if rest = "help".toList then .help else .long (String.ofList rest) none
  | '-' :: 'h' :: _ => .help
  | '-' :: letters => .short (String.ofList letters)
  | _ => .plain word

/-- The options of one level. With no arguments allowed, the first word that is no option ends the
level; it and the words behind it are the second result. -/
def Given.scan (table : OptionTable) (limit : Nat) (g : Given) :
    List String → Except Refusal (Given × List String)
  | [] => .ok (g, [])
  | word :: rest =>
    match Word.ofText word with
    | .plain word =>
      if limit = 0 then .ok (g, word :: rest)
      else
        match g.addArgument limit word with
        | .error e => .error e
        | .ok g => g.scan table limit rest
    | .separator =>
      match g.addArguments limit rest with
      | .error e => .error e
      | .ok g => .ok (g, [])
    | .help => .error .help
    | .short letters =>
      if limit = 0 && letters.toList.head? = some 'V' then .error .version else .error .misuse
    | .long name value =>
      match table.lookup name, value, rest with
      | none, none, _ => if limit = 0 && name == "version" then .error .version else .error .misuse
      | none, some _, _ => .error .misuse
      | some .flag, none, rest =>
        match g.addOption .flag name "" with
        | .error e => .error e
        | .ok g => g.scan table limit rest
      | some .flag, some _, _ => .error .misuse
      | some kind, some value, rest =>
        match g.addOption kind name value with
        | .error e => .error e
        | .ok g => g.scan table limit rest
      | some _, none, [] => .error .misuse
      | some kind, none, value :: rest =>
        match Word.ofText value with
        | .plain value =>
          match g.addOption kind name value with
          | .error e => .error e
          | .ok g => g.scan table limit rest
        | _ => .error .misuse

/-! ## Commands -/

/-- The options of a command besides the global ones. -/
def commandOptions : List (String × OptionTable) :=
  [("columns", []),
   ("count", [("where", .text)]),
   ("page", [("where", .text), ("order", .texts), ("page", .natural), ("page-size", .natural)]),
   ("seek", [("where", .text), ("order", .texts), ("cursor", .text), ("page-size", .natural),
     ("all-pages", .flag)])]

def Given.natural? (g : Given) (name : String) : Option Nat :=
  match (g.get? name).map fun value => Decimal.readBounded Decimal.max64 value.toList with
  | some (.ok n) => some n
  | _ => none

def Given.query (g : Given) (table : String) : QueryArgs := ⟨table, g.get? "where", g.all "order"⟩

def Given.command (g : Given) (name table : String) : Command :=
  match name with
  | "columns" => .columns table
  | "count" => .count table (g.get? "where")
  | "page" => .page (g.query table) ((g.natural? "page").getD 1) (g.natural? "page-size")
  | _ =>
    .seek (g.query table) (g.get? "cursor") (g.natural? "page-size") (g.get? "all-pages").isSome

/-- A global option; behind the command it counts more than before it. -/
def global? (before behind : Given) (name : String) : Option String :=
  (behind.get? name).or (before.get? name)

/-- The help for a command that exists. -/
def parseHelp : List String → Refusal
  | [] => .help
  | [name] => if (commandOptions.lookup name).isSome || name == "help" then .help else .misuse
  | _ => .misuse

def parse (words : List String) : Except Refusal Invocation :=
  match Given.empty.scan globalOptions 0 words with
  | .error e => .error e
  | .ok (_, []) => .error .misuse
  | .ok (before, name :: rest) =>
    match commandOptions.lookup name with
    | none => if name == "help" then .error (parseHelp rest) else .error .misuse
    | some options =>
      match Given.empty.scan (globalOptions ++ options) 1 rest with
      | .error e => .error e
      | .ok (behind, _) =>
        match behind.arguments.head? with
        | none => .error .misuse
        | some table =>
          .ok {
            databaseUrl := global? before behind "database-url"
            format := if global? before behind "format" == some "json" then .json else .text
            command := behind.command name table }

end Cli
end FilterSql

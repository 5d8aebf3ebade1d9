import FilterSql.Cli.Args
import FilterSql.Paging.Offset
import FilterSql.Paging.Seek
import FilterSql.Schema.Reading

/-!
# FilterSql.Cli.Command

What the commands do. They print while they run: what was printed before a failure stays.
-/

namespace FilterSql
namespace Cli

/-- What has been printed. -/
abbrev Printed := List Char

def printLine {s : Type} (line : String) : Run (Printed × s) Unit := fun (printed, state) =>
  (.ok (), printed ++ line.toList ++ ['\n'], state)

def printRows {s : Type} : List Row → Run (Printed × s) Unit
  | [] => pure ()
  | row :: rest => do
    printLine (Fields.text row)
    printRows rest

def rowsJson (rows : List Row) : Json := .arr (rows.map .obj)

/-! ## Reading the options of a query -/

/-- An option whose text cannot be read. -/
inductive BadOption where
  | filter
  | column (item : String)
  | direction (error : Error)

def BadOption.message : BadOption → String
  | .filter => "--where must be a JSON object"
  | .column item => s!"empty column in --order '{item}'"
  | .direction e => e.message

def readFilter : Option String → Except BadOption Filter
  | none => .ok []
  | some text =>
    match Fields.parse? text with
    | some fields => .ok fields
    | none => .error .filter

/-- A column, and behind a colon its direction. -/
def readOrderItem (item : String) : Except BadOption (String × SortOrder) :=
  let (column, order) :=
    match Text.cutFirst? (· == ':') item.toList with
    | some (column, direction) => (String.ofList column, SortOrder.parse (String.ofList direction))
    | none => (item, .ok .asc)
  match order with
  | .error e => .error (.direction e)
  | .ok order => if column.isEmpty then .error (.column item) else .ok (column, order)

def readOrder : List String → Except BadOption OrderBy
  | [] => .ok []
  | item :: rest =>
    match readOrderItem item with
    | .error e => .error e
    | .ok entry =>
      match readOrder rest with
      | .error e => .error e
      | .ok order => .ok (entry :: order)

def readQuery (args : QueryArgs) : Except BadOption (Filter × OrderBy) :=
  match readFilter args.filter with
  | .error e => .error e
  | .ok filter =>
    match readOrder args.order with
    | .error e => .error e
    | .ok order => .ok (filter, order)

/-! ## The commands -/

/-- A name with blanks up to 32 characters, and whether the column accepts NULL. -/
def columnLine (c : Column) : String :=
  "  " ++ c.name ++ String.ofList (List.replicate (32 - c.name.length) ' ') ++
    if c.nullable then " NULL" else " NOT NULL"

def printColumnLines {s : Type} : List Column → Run (Printed × s) Unit
  | [] => pure ()
  | c :: rest => do
    printLine (columnLine c)
    printColumnLines rest

def showColumns {σ : Type} (db : Database σ) (format : Format) (table : String) :
    Run (Printed × Session σ) Unit := do
  let known ← .inner (db.columns table)
  match format with
  | .json => printLine (Json.arr (known.columns.map Column.toJson)).pretty
  | .text =>
    printLine s!"Columns of '{table}' ({known.columns.length}):"
    printColumnLines known.columns

def showCount {σ : Type} (db : Database σ) (format : Format) (table : String) (filter : Filter) :
    Run (Printed × Session σ) Unit := do
  let q ← .inner (db.select table .all filter [])
  let count ← .inner (db.countSelect q none)
  match format with
  | .json => printLine (Json.obj [("table", .str table), ("count", .ofNat count)]).pretty
  | .text => printLine s!"{count}"

/-- A page number, where zero stands for none. -/
def pageText (page : Nat) : String := if page = 0 then "-" else toString page

def pageLine (p : OffsetPages) : String :=
  s!"-- page {p.page}/{p.lastPage} ({p.paged.resultCount} rows, page size {p.paged.pageSize}), " ++
    s!"prev: {pageText p.prev}, next: {pageText p.next}"

def showPage {σ : Type} (db : Database σ) (format : Format) (q : SelectQuery)
    (page pageSize : Nat) : Run (Printed × Session σ) Unit := do
  let start ← .inner (OffsetPages.start db q pageSize none)
  let (rows, p) ← .inner (Run.withOwn start (OffsetPages.read db page false))
  match format with
  | .json => printLine (Json.obj [("state", p.toJson), ("rows", rowsJson rows)]).pretty
  | .text =>
    printRows rows
    printLine (pageLine p)

def cursorLine : Option String → String
  | some next => s!"-- next cursor: {next}"
  | none => "-- last page"

def showSeek {σ : Type} (db : Database σ) (format : Format) (start : SeekPages)
    (cursor : Option String) : Run (Printed × Session σ) Unit := do
  let (rows, p) ← .inner (Run.withOwn start (SeekPages.read db cursor false))
  match format with
  | .json => printLine (Json.obj [("state", p.toJson), ("rows", rowsJson rows)]).pretty
  | .text =>
    printRows rows
    printLine (cursorLine p.lastResult)

def printPage {s : Type} (number : Nat) (page : SeekPage) : Run (Printed × s) Unit := do
  let key := page.key.getD "-"
  printLine s!"-- page {number} (cursor: {key})"
  printRows page.rows

/-- The pages of a walk to its end, but no more than a limit; as text they are printed at once.
`done` counts the pages before. -/
def walkPages {σ : Type} (db : Database σ) (format : Format) (done : Nat) :
    Nat → SeekWalk → Run (Printed × Session σ) (List SeekPage)
  | 0, _ => pure []
  | limit + 1, walk => do
    match ← .inner (Run.withOwn walk (SeekWalk.next db)) with
    | (none, _) => return []
    | (some page, walk) =>
      if format = .text then printPage (done + 1) page
      let rest ← walkPages db format (done + 1) limit walk
      return page :: rest

def seekAll {σ : Type} (db : Database σ) (format : Format) (limit : Nat) (start : SeekPages)
    (cursor : Option String) : Run (Printed × Session σ) Unit := do
  let pages ← walkPages db format 0 limit (SeekWalk.start start cursor)
  match format with
  | .json => printLine (Json.arr (pages.map SeekPage.toJson)).pretty
  | .text => printLine s!"-- {pages.length} page(s)"

/-! ## Choosing the command -/

def runPage {σ : Type} (db : Database σ) (format : Format) (table : String)
    (query : Filter × OrderBy) (number pageSize : Nat) : Run (Printed × Session σ) Unit := do
  let q ← .inner (db.select table .all query.1 query.2)
  showPage db format q number pageSize

def runSeek {σ : Type} (db : Database σ) (format : Format) (limit : Nat) (table : String)
    (query : Filter × OrderBy) (cursor : Option String) (pageSize : Nat) (allPages : Bool) :
    Run (Printed × Session σ) Unit := do
  let q ← .inner (db.select table .all query.1 query.2)
  let start ← .inner (SeekPages.start db q pageSize none)
  if allPages then seekAll db format limit start cursor else showSeek db format start cursor

/-- The computation of a command, if its options can be read. A walk over all pages ends after
`limit` of them. -/
def Command.program {σ : Type} (db : Database σ) (defaultPageSize limit : Nat) (format : Format) :
    Command → Except BadOption (Run (Printed × Session σ) Unit)
  | .columns table => .ok (showColumns db format table)
  | .count table filter =>
    match readFilter filter with
    | .error e => .error e
    | .ok filter => .ok (showCount db format table filter)
  | .page args number pageSize =>
    match readQuery args with
    | .error e => .error e
    | .ok query => .ok (runPage db format args.table query number (pageSize.getD defaultPageSize))
  | .seek args cursor pageSize allPages =>
    match readQuery args with
    | .error e => .error e
    | .ok query =>
      .ok (runSeek db format limit args.table query cursor (pageSize.getD defaultPageSize)
        allPages)

end Cli
end FilterSql

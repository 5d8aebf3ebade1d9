import FilterSql.Cell.Calendar
import FilterSql.Cell.Declaration
import FilterSql.Cell.Interval
import FilterSql.Cell.Numeric
import FilterSql.Cell.Postgres
import FilterSql.Cell.Sqlite
import FilterSql.Cli.Args
import FilterSql.Cli.Command
import FilterSql.Cli.Outcome
import FilterSql.Config
import FilterSql.Database.Backend
import FilterSql.Database.Basic
import FilterSql.Database.BuiltIn
import FilterSql.Database.Bulk
import FilterSql.Database.InMemory
import FilterSql.Database.Recorded
import FilterSql.Database.Recording
import FilterSql.Database.Run
import FilterSql.Database.Scripted
import FilterSql.Database.Url
import FilterSql.Decimal.Bounded
import FilterSql.Decimal.Double
import FilterSql.Decimal.Layout
import FilterSql.Decimal.Padded
import FilterSql.Decimal.Rounded
import FilterSql.Decimal.Shortest
import FilterSql.Error
import FilterSql.Filter.Compile
import FilterSql.Filter.Condition
import FilterSql.Filter.Operator
import FilterSql.Filter.OrderBy
import FilterSql.Json.Basic
import FilterSql.Json.Parser
import FilterSql.Json.Printer
import FilterSql.Json.Token
import FilterSql.Json.Tree
import FilterSql.Main
import FilterSql.Modifier.Registry
import FilterSql.Modifier.SoftDelete
import FilterSql.Paging.Basic
import FilterSql.Paging.Cursor
import FilterSql.Paging.Offset
import FilterSql.Paging.Seek
import FilterSql.Proofs.Filter.Bindable
import FilterSql.Proofs.Json.Fields
import FilterSql.Proofs.Paging.Reading
import FilterSql.Proofs.Query.Values
import FilterSql.Proofs.Sql.Meaning
import FilterSql.Proofs.Sql.Values
import FilterSql.Query.Basic
import FilterSql.Query.Change
import FilterSql.Query.Insert
import FilterSql.Query.Select
import FilterSql.Schema.Cache
import FilterSql.Schema.Column
import FilterSql.Schema.Reading
import FilterSql.Sql.Column
import FilterSql.Sql.Predicate
import FilterSql.Sql.Statement
import FilterSql.Text.Blank
import FilterSql.Text.Bytes
import FilterSql.Text.Cut
import FilterSql.Text.Hidden
import FilterSql.Text.Offset
import FilterSql.Text.Quoted
import FilterSql.Proofs.Paging.Cursor
import FilterSql.Proofs.Paging.Failure
import FilterSql.Proofs.Decimal.Digits
import FilterSql.Proofs.Json.Numbers
import FilterSql.Proofs.Json.Tokens
import FilterSql.Proofs.Json.ReadBack
import FilterSql.Proofs.Paging.Resuming
import FilterSql.Proofs.Paging.Table
import FilterSql.Proofs.Paging.Walking
import FilterSql.Proofs.Sql.Erased
import FilterSql.Proofs.Filter.Alike
import FilterSql.Proofs.Database.Alike
import FilterSql.Proofs.Database.Bulk
import FilterSql.Proofs.Paging.Alike
import FilterSql.Proofs.Operation
import FilterSql.Proofs.Query.Insertion
import FilterSql.Proofs.Database.Outcome
import FilterSql.Proofs.Database.Coverage
import FilterSql.Proofs.Database.Closed
import FilterSql.Proofs.Database.Refused
import FilterSql.Proofs.Paging.Numbered
import FilterSql.Proofs.Paging.Nulls
import FilterSql.Proofs.Sql.Precedence
import FilterSql.Proofs.Query.Narrowing
import FilterSql.Proofs.Sql.Placeholders
import FilterSql.Proofs.Query.Placeholders
import FilterSql.Proofs.Paging.Drawn
import FilterSql.Proofs.Database.Prepared
import FilterSql.Proofs.Modifier.SoftDelete
import FilterSql.Proofs.Modifier.Sent
import FilterSql.Proofs.Filter.Keys
import FilterSql.Proofs.Database.Lookups
import FilterSql.Proofs.Database.Client
import FilterSql.Proofs.Paging.Moves
import FilterSql.Proofs.Sql.Tests
import FilterSql.Proofs.Query.Guarded
import FilterSql.Proofs.Paging.Lexicographic
import FilterSql.Proofs.Paging.Accepted
import FilterSql.Proofs.Filter.Admissible
import FilterSql.Proofs.Database.Lazy
import FilterSql.Proofs.Filter.Names
import FilterSql.Proofs.Json.Lossless
import FilterSql.Proofs.Paging.RoundTrip
import FilterSql.Proofs.Modifier.Registry
import FilterSql.Proofs.Cell.Interval
import FilterSql.Proofs.Database.Redaction
import FilterSql.Proofs.Decimal.Bounded
import FilterSql.Proofs.Config
import FilterSql.Proofs.Query.Assigned
import FilterSql.Proofs.Cell.Repeated
import FilterSql.Proofs.Database.Interrupted

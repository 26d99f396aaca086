import TraceQuery.Application
import TraceQuery.CommandLine.Parse
import TraceQuery.CommandLine.Setting
import TraceQuery.CommandLine.Timestamp
import TraceQuery.CommandLine.Variables
import TraceQuery.Config.File
import TraceQuery.Config.Inspect
import TraceQuery.Config.Layer
import TraceQuery.Config.Load
import TraceQuery.Config.Path
import TraceQuery.Decimal.Shortest
import TraceQuery.Decimal.Text
import TraceQuery.Filter.Document
import TraceQuery.Filter.Operator
import TraceQuery.Filter.Predicate
import TraceQuery.Filter.Value
import TraceQuery.Json.Decode
import TraceQuery.Json.Fault
import TraceQuery.Json.Inspect
import TraceQuery.Json.Numeral
import TraceQuery.Json.Token
import TraceQuery.Json.Tree
import TraceQuery.Json.Value
import TraceQuery.Main
import TraceQuery.NameMap
import TraceQuery.Proofs.Filter.Complement
import TraceQuery.Proofs.Filter.Containment
import TraceQuery.Proofs.Paging.Coverage
import TraceQuery.Proofs.Paging.Order
import TraceQuery.Proofs.Paging.Resumption
import TraceQuery.Proofs.Paging.Skipped
import TraceQuery.Proofs.Paging.Traversal
import TraceQuery.Proofs.Paging.Walk
import TraceQuery.Proofs.Query.Agreement
import TraceQuery.Proofs.Query.Answer
import TraceQuery.Proofs.Query.Conjunction
import TraceQuery.Proofs.Query.Faults
import TraceQuery.Proofs.Query.Parameters
import TraceQuery.Proofs.Query.Plan
import TraceQuery.Proofs.Query.Select
import TraceQuery.Proofs.Query.Shape
import TraceQuery.Proofs.Query.Timeframe
import TraceQuery.Proofs.Reader.Fetch
import TraceQuery.Proofs.Reader.Outcome
import TraceQuery.Proofs.Reader.Search
import TraceQuery.Proofs.Span.Cursor
import TraceQuery.Proofs.Span.OfRow
import TraceQuery.Proofs.Span.Validity
import TraceQuery.Proofs.Sql.Aliases
import TraceQuery.Proofs.Sql.Clause
import TraceQuery.Proofs.Sql.Expression
import TraceQuery.Proofs.Sql.Filled
import TraceQuery.Proofs.Sql.Like
import TraceQuery.Proofs.Sql.Truth
import TraceQuery.Query.Discovery
import TraceQuery.Query.Error
import TraceQuery.Query.Request
import TraceQuery.Query.Scope
import TraceQuery.Query.Search
import TraceQuery.Query.TagValues
import TraceQuery.Reader.Basic
import TraceQuery.Reader.Context
import TraceQuery.Reader.Error
import TraceQuery.Reader.Session
import TraceQuery.Row
import TraceQuery.Span.Basic
import TraceQuery.Span.Columns
import TraceQuery.Span.Cursor
import TraceQuery.Span.OfRow
import TraceQuery.Span.Page
import TraceQuery.Sql.Like
import TraceQuery.Sql.Predicate
import TraceQuery.Sql.Statement
import TraceQuery.Store.Opening
import TraceQuery.Tag.Basic
import TraceQuery.Tag.Catalog
import TraceQuery.Tag.Location
import TraceQuery.Tag.Values
import TraceQuery.Text.Alphanumeric
import TraceQuery.Text.Blank
import TraceQuery.Text.Printable
import TraceQuery.Text.Quoted
import TraceQuery.Text.Utf8
import TraceQuery.Wire.Filter
import TraceQuery.Wire.Request
import TraceQuery.Wire.Span
import TraceQuery.Wire.Tag
import TraceQuery.Word
import TraceQuery.Proofs.NameMap
import TraceQuery.Proofs.Tag.Catalog
import TraceQuery.Proofs.Tag.Location
import TraceQuery.Proofs.Tag.Resolution
import TraceQuery.Proofs.Reader.Batch
import TraceQuery.Proofs.Reader.Cancellation
import TraceQuery.Proofs.Paging.Policy
import TraceQuery.Proofs.Config.Layering
import TraceQuery.Proofs.Decimal.Finite
import TraceQuery.Proofs.Json.Numeral
import TraceQuery.Proofs.Json.Reread
import TraceQuery.Proofs.Reader.TagValues
import TraceQuery.Proofs.Wire.RoundTrip
import TraceQuery.Proofs.Span.Storing
import TraceQuery.Proofs.Text.Scalars
import TraceQuery.Proofs.Span.Token
import TraceQuery.Proofs.Reader.Rows
import TraceQuery.Proofs.Paging.Page
import TraceQuery.Proofs.Reader.Ranking
import TraceQuery.Proofs.Reader.Context
import TraceQuery.Proofs.Paging.Size
import TraceQuery.Proofs.Filter.Document
import TraceQuery.Proofs.Filter.Decoding
import TraceQuery.Proofs.Config.Path
import TraceQuery.Proofs.Decimal.Magnitude
import TraceQuery.Proofs.Json.Range
import TraceQuery.Proofs.Reader.Deadline

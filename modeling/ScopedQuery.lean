import ScopedQuery.Attempt
import ScopedQuery.Bound.Basic
import ScopedQuery.Bound.Json
import ScopedQuery.Bound.Param
import ScopedQuery.Calendar.Instant
import ScopedQuery.Calendar.JulianDay
import ScopedQuery.Calendar.Reading
import ScopedQuery.Calendar.Written
import ScopedQuery.Caller.Basic
import ScopedQuery.Caller.Json
import ScopedQuery.Caller.Scope
import ScopedQuery.CommandLine.Arguments
import ScopedQuery.CommandLine.Execution
import ScopedQuery.CommandLine.Help
import ScopedQuery.CommandLine.RequestId
import ScopedQuery.CommandLine.Variables
import ScopedQuery.Compiled
import ScopedQuery.Decimal.Layout
import ScopedQuery.Decimal.Numeral
import ScopedQuery.Decimal.Shortest
import ScopedQuery.Engine
import ScopedQuery.Failure
import ScopedQuery.Json.Fault
import ScopedQuery.Json.Reader
import ScopedQuery.Json.Scan
import ScopedQuery.Json.Value
import ScopedQuery.Json.Writer
import ScopedQuery.Main
import ScopedQuery.Plan.Basic
import ScopedQuery.Plan.Fault
import ScopedQuery.Plan.Json
import ScopedQuery.Proofs.Attempts
import ScopedQuery.Proofs.Bound.Aligned
import ScopedQuery.Proofs.Bound.Clauses
import ScopedQuery.Proofs.Bound.Clear
import ScopedQuery.Proofs.Bound.Columns
import ScopedQuery.Proofs.Bound.Dialects
import ScopedQuery.Proofs.Bound.Everywhere
import ScopedQuery.Proofs.Bound.Failing
import ScopedQuery.Proofs.Bound.Joined
import ScopedQuery.Proofs.Bound.Marks
import ScopedQuery.Proofs.Bound.Operands
import ScopedQuery.Proofs.Bound.Parts
import ScopedQuery.Proofs.Bound.ReadBack
import ScopedQuery.Proofs.Bound.SameShape
import ScopedQuery.Proofs.Bound.Selected
import ScopedQuery.Proofs.Bound.Zeroed
import ScopedQuery.Proofs.Calendar.Digits
import ScopedQuery.Proofs.Calendar.Forms
import ScopedQuery.Proofs.Calendar.Sorted
import ScopedQuery.Proofs.Calendar.Written
import ScopedQuery.Proofs.Caller.Persons
import ScopedQuery.Proofs.Caller.Projection
import ScopedQuery.Proofs.Caller.Scoping
import ScopedQuery.Proofs.Compiled.Accepted
import ScopedQuery.Proofs.Compiled.Failing
import ScopedQuery.Proofs.Compiled.Limited
import ScopedQuery.Proofs.Compiled.Persons
import ScopedQuery.Proofs.Compiled.Pinned
import ScopedQuery.Proofs.Compiled.Ready
import ScopedQuery.Proofs.Decimal.Written
import ScopedQuery.Proofs.Engine.Answered
import ScopedQuery.Proofs.Engine.Disclosure
import ScopedQuery.Proofs.Engine.Noninterference
import ScopedQuery.Proofs.Json.Accepted
import ScopedQuery.Proofs.Json.Denoted
import ScopedQuery.Proofs.Json.Edited
import ScopedQuery.Proofs.Json.Fields
import ScopedQuery.Proofs.Json.Filled
import ScopedQuery.Proofs.Json.Gaps
import ScopedQuery.Proofs.Json.Grammar
import ScopedQuery.Proofs.Json.Number
import ScopedQuery.Proofs.Json.Numeral
import ScopedQuery.Proofs.Json.Passing
import ScopedQuery.Proofs.Json.Quoted
import ScopedQuery.Proofs.Json.Reads
import ScopedQuery.Proofs.Json.Record
import ScopedQuery.Proofs.Json.Skipped
import ScopedQuery.Proofs.Json.Steps
import ScopedQuery.Proofs.Json.Text
import ScopedQuery.Proofs.Plan.Denoted
import ScopedQuery.Proofs.Plan.Fenced
import ScopedQuery.Proofs.Plan.Lenient
import ScopedQuery.Proofs.Plan.ReadBack
import ScopedQuery.Proofs.Query.Acceptable
import ScopedQuery.Proofs.Query.Checked
import ScopedQuery.Proofs.Query.Denoted
import ScopedQuery.Proofs.Query.Faults
import ScopedQuery.Proofs.Query.Limited
import ScopedQuery.Proofs.Query.Normal
import ScopedQuery.Proofs.Query.Offences
import ScopedQuery.Proofs.ResultSet.Rectangular
import ScopedQuery.Proofs.ResultSet.Truncated
import ScopedQuery.Proofs.Schema.Dataset
import ScopedQuery.Proofs.Schema.Tasks
import ScopedQuery.Proofs.Settings.Environment
import ScopedQuery.Proofs.Sql.Accepted
import ScopedQuery.Proofs.Sql.Calm.Basic
import ScopedQuery.Proofs.Sql.Calm.Definition
import ScopedQuery.Proofs.Sql.Calm.Expression
import ScopedQuery.Proofs.Sql.Calm.Leaf
import ScopedQuery.Proofs.Sql.Calm.Query
import ScopedQuery.Proofs.Sql.Calm.Session
import ScopedQuery.Proofs.Sql.Calm.Source
import ScopedQuery.Proofs.Sql.Calm.Statement
import ScopedQuery.Proofs.Sql.Calm.Table
import ScopedQuery.Proofs.Sql.Delimited
import ScopedQuery.Proofs.Sql.Lexeme
import ScopedQuery.Proofs.Sql.Nodes
import ScopedQuery.Proofs.Sql.Phrase
import ScopedQuery.Proofs.Sql.Reading.Call
import ScopedQuery.Proofs.Sql.Reading.Condition
import ScopedQuery.Proofs.Sql.Reading.Operand
import ScopedQuery.Proofs.Sql.Reading.Select
import ScopedQuery.Proofs.Sql.Reading.Source
import ScopedQuery.Proofs.Sql.Reading.Steps
import ScopedQuery.Proofs.Sql.Scan
import ScopedQuery.Proofs.Sql.Squeezed.Delimited
import ScopedQuery.Proofs.Sql.Squeezed.Number
import ScopedQuery.Proofs.Sql.Squeezed.Step
import ScopedQuery.Proofs.Sql.Transparent
import ScopedQuery.Proofs.Sql.Words
import ScopedQuery.Proofs.Steps
import ScopedQuery.Proofs.Store.Agreeing
import ScopedQuery.Proofs.Store.Alike
import ScopedQuery.Proofs.Store.Alongside
import ScopedQuery.Proofs.Store.Engines
import ScopedQuery.Proofs.Store.Executed
import ScopedQuery.Proofs.Store.Rows
import ScopedQuery.Proofs.Store.Selecting
import ScopedQuery.Proofs.Store.Shape
import ScopedQuery.Proofs.Store.Takes
import ScopedQuery.Proofs.Store.Visible
import ScopedQuery.Proofs.Text.Bytes
import ScopedQuery.Proofs.Text.Collapse
import ScopedQuery.Proofs.Text.DisplayName
import ScopedQuery.Proofs.Text.Lower
import ScopedQuery.Proofs.Text.Neat
import ScopedQuery.Proofs.Text.Sorted
import ScopedQuery.Proofs.Text.Spelled
import ScopedQuery.Proofs.Text.Trim
import ScopedQuery.Query.Basic
import ScopedQuery.Query.Checking
import ScopedQuery.Query.Limits
import ScopedQuery.Response
import ScopedQuery.ResultSet.Basic
import ScopedQuery.ResultSet.Csv
import ScopedQuery.ResultSet.Json
import ScopedQuery.Schema.Aggregation
import ScopedQuery.Schema.Dataset
import ScopedQuery.Schema.Field
import ScopedQuery.Schema.Operator
import ScopedQuery.Schema.Tasks
import ScopedQuery.Settings
import ScopedQuery.Sql.Canonical
import ScopedQuery.Sql.Grammar.Change
import ScopedQuery.Sql.Grammar.Definition
import ScopedQuery.Sql.Grammar.Expression
import ScopedQuery.Sql.Grammar.Leaf
import ScopedQuery.Sql.Grammar.Query
import ScopedQuery.Sql.Grammar.Session
import ScopedQuery.Sql.Grammar.Source
import ScopedQuery.Sql.Grammar.Statement
import ScopedQuery.Sql.Grammar.Table
import ScopedQuery.Sql.Grammar.TypeName
import ScopedQuery.Sql.Keyword
import ScopedQuery.Sql.Parsing
import ScopedQuery.Sql.Refusal
import ScopedQuery.Sql.Safety
import ScopedQuery.Sql.Syntax
import ScopedQuery.Sql.Token
import ScopedQuery.Store.Affinity
import ScopedQuery.Store.Basic
import ScopedQuery.Store.Cell
import ScopedQuery.Store.Execution
import ScopedQuery.Store.File
import ScopedQuery.Store.Pages
import ScopedQuery.Store.Resolution
import ScopedQuery.Store.Selection
import ScopedQuery.Store.Term
import ScopedQuery.Store.Total
import ScopedQuery.Text.Blank
import ScopedQuery.Text.Case
import ScopedQuery.Text.DisplayName
import ScopedQuery.Text.Letter
import ScopedQuery.Text.Lower
import ScopedQuery.Text.Quoted
import ScopedQuery.Text.Sorted
import ScopedQuery.Text.Utf8

import ModelSql.Calendar
import ModelSql.Calendar.Reader
import ModelSql.Command.Parameters
import ModelSql.Command.Schema
import ModelSql.Command.Session
import ModelSql.CommandLine
import ModelSql.CommandLine.Arguments
import ModelSql.CommandLine.Failure
import ModelSql.CommandLine.Output
import ModelSql.CommandLine.Project
import ModelSql.CommandLine.Script
import ModelSql.Dialect
import ModelSql.Dialect.Column
import ModelSql.Dialect.Config
import ModelSql.Dialect.Functions
import ModelSql.Dialect.Kind
import ModelSql.Dialect.Literal
import ModelSql.Dialect.Paging
import ModelSql.Dialect.Reserved
import ModelSql.Dialect.RowStatement
import ModelSql.Dialect.Rules
import ModelSql.Dialect.Sequence
import ModelSql.Dialect.Table
import ModelSql.Document.Datum
import ModelSql.Document.Decode
import ModelSql.Document.Json
import ModelSql.Document.Read
import ModelSql.Document.Toml
import ModelSql.Document.Toml.Scalar
import ModelSql.Error
import ModelSql.Expr
import ModelSql.Files.FileSystem
import ModelSql.Files.Host
import ModelSql.Files.Path
import ModelSql.Guid
import ModelSql.Main
import ModelSql.Model
import ModelSql.Model.Build
import ModelSql.Model.Catalog
import ModelSql.Model.Field
import ModelSql.Model.Row
import ModelSql.Naming
import ModelSql.Numeric.Binary
import ModelSql.Numeric.Decimal
import ModelSql.Numeric.Decimal.Arithmetic
import ModelSql.Numeric.Decimal.Float
import ModelSql.Numeric.Power
import ModelSql.Numeric.Shortest
import ModelSql.Operator
import ModelSql.Proofs.Calendar.Reading
import ModelSql.Proofs.Command.Creation
import ModelSql.Proofs.Command.Unwritable
import ModelSql.Proofs.CommandLine.Argument
import ModelSql.Proofs.CommandLine.Preview
import ModelSql.Proofs.CommandLine.Script
import ModelSql.Proofs.CommandLine.Sequence
import ModelSql.Proofs.CommandLine.Writing
import ModelSql.Proofs.Dialect.Answer
import ModelSql.Proofs.Dialect.Bits
import ModelSql.Proofs.Dialect.Decimal
import ModelSql.Proofs.Dialect.Distinct
import ModelSql.Proofs.Dialect.Exact
import ModelSql.Proofs.Dialect.Float
import ModelSql.Proofs.Dialect.Form
import ModelSql.Proofs.Dialect.Generated
import ModelSql.Proofs.Dialect.GeneratorName
import ModelSql.Proofs.Dialect.Identifier
import ModelSql.Proofs.Dialect.IndexName
import ModelSql.Proofs.Dialect.InsertFailure
import ModelSql.Proofs.Dialect.Insertion
import ModelSql.Proofs.Dialect.LastValue
import ModelSql.Proofs.Dialect.Location
import ModelSql.Proofs.Dialect.Mention
import ModelSql.Proofs.Dialect.Nested
import ModelSql.Proofs.Dialect.Reference
import ModelSql.Proofs.Dialect.Rename
import ModelSql.Proofs.Dialect.RowRange
import ModelSql.Proofs.Dialect.Stamp
import ModelSql.Proofs.Dialect.Storage
import ModelSql.Proofs.Dialect.Variant
import ModelSql.Proofs.Dialect.Window
import ModelSql.Proofs.Files.FileSystem
import ModelSql.Proofs.Files.Path
import ModelSql.Proofs.Model.Acceptance
import ModelSql.Proofs.Model.Built
import ModelSql.Proofs.Model.Key
import ModelSql.Proofs.Model.Lookup
import ModelSql.Proofs.Numeric.Decimal
import ModelSql.Proofs.Numeric.Overflow
import ModelSql.Proofs.Numeric.Places
import ModelSql.Proofs.Numeric.Spelling
import ModelSql.Proofs.Numeric.Whole
import ModelSql.Proofs.Query.Alike
import ModelSql.Proofs.Query.Binding
import ModelSql.Proofs.Query.Computed
import ModelSql.Proofs.Query.Condition
import ModelSql.Proofs.Query.Enclosure
import ModelSql.Proofs.Query.Filtering
import ModelSql.Proofs.Query.Folding
import ModelSql.Proofs.Query.Inversion
import ModelSql.Proofs.Query.Leaf
import ModelSql.Proofs.Query.Matching
import ModelSql.Proofs.Query.Membership
import ModelSql.Proofs.Query.Mirror
import ModelSql.Proofs.Query.Operand
import ModelSql.Proofs.Query.Operation
import ModelSql.Proofs.Query.Ordering
import ModelSql.Proofs.Query.Ownership
import ModelSql.Proofs.Query.Parameterization
import ModelSql.Proofs.Query.Parentheses
import ModelSql.Proofs.Query.Placeholder
import ModelSql.Proofs.Query.Predicate
import ModelSql.Proofs.Query.RawSelection
import ModelSql.Proofs.Query.RawText
import ModelSql.Proofs.Query.Reading
import ModelSql.Proofs.Query.Refusal
import ModelSql.Proofs.Query.Replay
import ModelSql.Proofs.Query.RowFailure
import ModelSql.Proofs.Query.RowStatement
import ModelSql.Proofs.Query.Search
import ModelSql.Proofs.Query.Selection
import ModelSql.Proofs.Query.Simulation
import ModelSql.Proofs.Query.Slot
import ModelSql.Proofs.Query.Spelling
import ModelSql.Proofs.Query.Substring
import ModelSql.Proofs.Query.Sum
import ModelSql.Proofs.Query.Template
import ModelSql.Proofs.Query.Visit
import ModelSql.Proofs.Query.Written
import ModelSql.Proofs.Schema.Declaration
import ModelSql.Proofs.Settings.Decimal
import ModelSql.Proofs.Settings.Overlay
import ModelSql.Proofs.Syntax.Arithmetic
import ModelSql.Proofs.Syntax.Clause
import ModelSql.Proofs.Syntax.Composed
import ModelSql.Proofs.Syntax.Depth
import ModelSql.Proofs.Syntax.Formula
import ModelSql.Proofs.Syntax.Function
import ModelSql.Proofs.Syntax.Grammar
import ModelSql.Proofs.Syntax.Keyword
import ModelSql.Proofs.Syntax.Lexer
import ModelSql.Proofs.Syntax.Nest
import ModelSql.Proofs.Syntax.Operator
import ModelSql.Proofs.Syntax.Parameter
import ModelSql.Proofs.Syntax.Quotation
import ModelSql.Proofs.Syntax.ServerText
import ModelSql.Proofs.Syntax.Tree
import ModelSql.Proofs.Text.Digits
import ModelSql.Proofs.Text.LowerCase
import ModelSql.Proofs.Text.Pattern
import ModelSql.Proofs.Text.UpperCase
import ModelSql.Proofs.Text.Words
import ModelSql.Proofs.Value.Bits
import ModelSql.Proofs.Value.Integer
import ModelSql.Proofs.Value.Number
import ModelSql.Proofs.Value.Order
import ModelSql.Proofs.Value.Scalar
import ModelSql.Query
import ModelSql.Query.Binding
import ModelSql.Query.Compile
import ModelSql.Query.Fold
import ModelSql.Query.Parentheses
import ModelSql.Query.Raw
import ModelSql.Query.Statement
import ModelSql.Schema
import ModelSql.Schema.Spec
import ModelSql.Settings
import ModelSql.Text.Basic
import ModelSql.Text.Casing
import ModelSql.Text.Letter
import ModelSql.Text.SnakeCase
import ModelSql.Value
import ModelSql.Value.Arithmetic
import ModelSql.Value.Compare
import ModelSql.Value.Json
import ModelSql.Value.Kind

import SqlRender.Column
import SqlRender.Config.Basic
import SqlRender.Config.Flags
import SqlRender.Config.Layers
import SqlRender.DataType
import SqlRender.Dialect
import SqlRender.Draft
import SqlRender.Engine
import SqlRender.Error
import SqlRender.Fragment
import SqlRender.Json.Basic
import SqlRender.Json.Parser
import SqlRender.Json.Printer
import SqlRender.Like
import SqlRender.Literal.DollarTag
import SqlRender.Literal.Sanitize
import SqlRender.Literal.Text
import SqlRender.Name
import SqlRender.NativeType
import SqlRender.Number.Decimal
import SqlRender.Number.Double
import SqlRender.Number.DoubleReader
import SqlRender.Number.Shortest
import SqlRender.Paging
import SqlRender.Predicate.Basic
import SqlRender.Predicate.Draft
import SqlRender.Predicate.Operator
import SqlRender.Predicate.Validate
import SqlRender.Profile.Basic
import SqlRender.Profile.Engines
import SqlRender.Proofs.Alike.Fragment
import SqlRender.Proofs.Alike.Predicate
import SqlRender.Proofs.Alike.Query
import SqlRender.Proofs.Alike.Statement
import SqlRender.Proofs.Calls
import SqlRender.Proofs.Compiler
import SqlRender.Proofs.Config.Flags
import SqlRender.Proofs.Config.Layers
import SqlRender.Proofs.Config.Merged
import SqlRender.Proofs.Config.Patterns
import SqlRender.Proofs.Config.Sections
import SqlRender.Proofs.Draft
import SqlRender.Proofs.Fragment.Blank
import SqlRender.Proofs.Fragment.Bytes
import SqlRender.Proofs.Fragment.Deal
import SqlRender.Proofs.Fragment.Fill
import SqlRender.Proofs.Fragment.Legible
import SqlRender.Proofs.Fragment.Skeleton
import SqlRender.Proofs.Fragment.Tokens
import SqlRender.Proofs.Json.Number
import SqlRender.Proofs.Json.Reader
import SqlRender.Proofs.Json.Strings
import SqlRender.Proofs.Like
import SqlRender.Proofs.Like.Matcher
import SqlRender.Proofs.Like.Sanitized
import SqlRender.Proofs.Lists
import SqlRender.Proofs.Literal.DollarTag
import SqlRender.Proofs.Literal.Numbered
import SqlRender.Proofs.Literal.Passes
import SqlRender.Proofs.Literal.Sanitize
import SqlRender.Proofs.Name
import SqlRender.Proofs.NativeType
import SqlRender.Proofs.NativeType.Arguments
import SqlRender.Proofs.NativeType.Reader
import SqlRender.Proofs.Number.Decimal
import SqlRender.Proofs.Paging
import SqlRender.Proofs.Paging.Window
import SqlRender.Proofs.Predicate.Fold
import SqlRender.Proofs.Predicate.Kept
import SqlRender.Proofs.Predicate.Legible
import SqlRender.Proofs.Predicate.Modes
import SqlRender.Proofs.Predicate.Search
import SqlRender.Proofs.Predicate.Skeleton
import SqlRender.Proofs.Predicate.Strict
import SqlRender.Proofs.Predicate.Unique
import SqlRender.Proofs.Predicate.Walk
import SqlRender.Proofs.Predicate.WellFormed
import SqlRender.Proofs.Query.Batches
import SqlRender.Proofs.Query.BindLimit
import SqlRender.Proofs.Query.Clause
import SqlRender.Proofs.Query.Filters
import SqlRender.Proofs.Query.Groups
import SqlRender.Proofs.Query.Legible
import SqlRender.Proofs.Query.Mismatch
import SqlRender.Proofs.Query.Placeholders
import SqlRender.Proofs.Query.Request
import SqlRender.Proofs.Query.RowByRow
import SqlRender.Proofs.Query.SameRows
import SqlRender.Proofs.Query.Tuples
import SqlRender.Proofs.Results
import SqlRender.Proofs.SameForm.Predicate
import SqlRender.Proofs.SameForm.Query
import SqlRender.Proofs.SameForm.Statement
import SqlRender.Proofs.Table
import SqlRender.Proofs.Text.Digits
import SqlRender.Proofs.Text.Hex
import SqlRender.Proofs.Text.Respelled
import SqlRender.Proofs.Text.Trim
import SqlRender.Proofs.Time.Pattern
import SqlRender.Proofs.Time.Reader
import SqlRender.Proofs.Token.Literal
import SqlRender.Proofs.Token.Plain
import SqlRender.Proofs.Token.Quoted
import SqlRender.Proofs.Token.ReadString
import SqlRender.Proofs.Token.Scanner
import SqlRender.Proofs.Toml.Distinct
import SqlRender.Proofs.Toml.Overlay
import SqlRender.Proofs.Uuid
import SqlRender.Proofs.Wire.Document
import SqlRender.Proofs.Wire.Predicate
import SqlRender.Proofs.Wire.Value
import SqlRender.Query.Basic
import SqlRender.Query.Insert
import SqlRender.Query.Select
import SqlRender.ResultSet
import SqlRender.Row
import SqlRender.Statement
import SqlRender.Table
import SqlRender.Text.Blank
import SqlRender.Text.Digits
import SqlRender.Text.Hex
import SqlRender.Text.Printable
import SqlRender.Text.Quoted
import SqlRender.Time.Calendar
import SqlRender.Time.Pattern
import SqlRender.Time.Reader
import SqlRender.Time.Stamp
import SqlRender.Toml.Basic
import SqlRender.Toml.Document
import SqlRender.Toml.Scalar
import SqlRender.Toml.Value
import SqlRender.Uuid
import SqlRender.Value
import SqlRender.Wire.Config
import SqlRender.Wire.Predicate
import SqlRender.Wire.Record
import SqlRender.Wire.Schema
import SqlRender.Wire.Value

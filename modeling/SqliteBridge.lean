import SqliteBridge.Authorization
import SqliteBridge.Binding.BoundaryType
import SqliteBridge.Binding.Catalog
import SqliteBridge.Binding.Config
import SqliteBridge.Binding.LogicalType
import SqliteBridge.Binding.Naming
import SqliteBridge.Binding.Output
import SqliteBridge.Binding.Pair
import SqliteBridge.Binding.Path
import SqliteBridge.Binding.PathText
import SqliteBridge.Binding.Registry
import SqliteBridge.Binding.Source
import SqliteBridge.Binding.Toolkit
import SqliteBridge.Binding.Trampoline
import SqliteBridge.Boundary.Call
import SqliteBridge.Boundary.Crossing
import SqliteBridge.Boundary.Environment
import SqliteBridge.Boundary.Trampoline
import SqliteBridge.Bytes
import SqliteBridge.ColumnType
import SqliteBridge.Error
import SqliteBridge.Handle.Population
import SqliteBridge.Handle.Reference
import SqliteBridge.Handle.Table
import SqliteBridge.Handle.Token
import SqliteBridge.Json.Composite
import SqliteBridge.Json.Number
import SqliteBridge.Json.Reader
import SqliteBridge.Json.Scalar
import SqliteBridge.Json.Skip
import SqliteBridge.Native.Call
import SqliteBridge.Native.Library
import SqliteBridge.Native.Scripted
import SqliteBridge.Number.Binary64
import SqliteBridge.Number.Decimal
import SqliteBridge.Number.Notation
import SqliteBridge.OpenConfig
import SqliteBridge.Proofs.Binding.Batch
import SqliteBridge.Proofs.Binding.Casing
import SqliteBridge.Proofs.Binding.Definitions
import SqliteBridge.Proofs.Binding.Descriptors
import SqliteBridge.Proofs.Binding.Functions
import SqliteBridge.Proofs.Binding.Headers
import SqliteBridge.Proofs.Binding.Identifiers
import SqliteBridge.Proofs.Binding.Loading
import SqliteBridge.Proofs.Binding.Locals
import SqliteBridge.Proofs.Binding.Mangling
import SqliteBridge.Proofs.Binding.Paths
import SqliteBridge.Proofs.Binding.Reading
import SqliteBridge.Proofs.Binding.Segments
import SqliteBridge.Proofs.Binding.Updates
import SqliteBridge.Proofs.Binding.Verdicts
import SqliteBridge.Proofs.Binding.Wiring
import SqliteBridge.Proofs.Boundary.Accord
import SqliteBridge.Proofs.Boundary.Arguments
import SqliteBridge.Proofs.Boundary.Bodies
import SqliteBridge.Proofs.Boundary.Callers
import SqliteBridge.Proofs.Boundary.Echo
import SqliteBridge.Proofs.Boundary.Exceptions
import SqliteBridge.Proofs.Boundary.Exchanges
import SqliteBridge.Proofs.Boundary.Independence
import SqliteBridge.Proofs.Boundary.Interleaving
import SqliteBridge.Proofs.Boundary.LiveTokens
import SqliteBridge.Proofs.Boundary.Pairs
import SqliteBridge.Proofs.Boundary.Requests
import SqliteBridge.Proofs.Handle.Accounting
import SqliteBridge.Proofs.Handle.Adoption
import SqliteBridge.Proofs.Handle.Consistency
import SqliteBridge.Proofs.Handle.Correspondence
import SqliteBridge.Proofs.Handle.FiniteMap
import SqliteBridge.Proofs.Handle.Generations
import SqliteBridge.Proofs.Handle.Issues
import SqliteBridge.Proofs.Handle.Operation
import SqliteBridge.Proofs.Handle.Packing
import SqliteBridge.Proofs.Handle.Population
import SqliteBridge.Proofs.Handle.RawValues
import SqliteBridge.Proofs.Handle.Reuse
import SqliteBridge.Proofs.Handle.Rounds
import SqliteBridge.Proofs.Json.Composites
import SqliteBridge.Proofs.Json.Grammar
import SqliteBridge.Proofs.Json.Numbers
import SqliteBridge.Proofs.Json.Objects
import SqliteBridge.Proofs.Json.RoundTrip
import SqliteBridge.Proofs.Json.Scalars
import SqliteBridge.Proofs.Number.Bounds
import SqliteBridge.Proofs.Session.Advances
import SqliteBridge.Proofs.Session.Authorizers
import SqliteBridge.Proofs.Session.Bindings
import SqliteBridge.Proofs.Session.Bystanders
import SqliteBridge.Proofs.Session.Calls
import SqliteBridge.Proofs.Session.Canonical
import SqliteBridge.Proofs.Session.Custody
import SqliteBridge.Proofs.Session.Echo
import SqliteBridge.Proofs.Session.Edits
import SqliteBridge.Proofs.Session.Endings
import SqliteBridge.Proofs.Session.Frame
import SqliteBridge.Proofs.Session.Interludes
import SqliteBridge.Proofs.Session.Iteration
import SqliteBridge.Proofs.Session.LastErrors
import SqliteBridge.Proofs.Session.Lifecycle
import SqliteBridge.Proofs.Session.Misuse
import SqliteBridge.Proofs.Session.Parallel
import SqliteBridge.Proofs.Session.Parameters
import SqliteBridge.Proofs.Session.Paths
import SqliteBridge.Proofs.Session.Queries
import SqliteBridge.Proofs.Session.Quiet
import SqliteBridge.Proofs.Session.Record
import SqliteBridge.Proofs.Session.Release
import SqliteBridge.Proofs.Session.Reporting
import SqliteBridge.Proofs.Session.Runs
import SqliteBridge.Proofs.Session.Separation
import SqliteBridge.Proofs.Session.Steps
import SqliteBridge.Proofs.Session.Tokens
import SqliteBridge.Proofs.Session.Turns
import SqliteBridge.Proofs.Session.Twins
import SqliteBridge.Proofs.Session.Unattended
import SqliteBridge.Proofs.Session.Unison
import SqliteBridge.Proofs.Session.Usable
import SqliteBridge.ResultCode
import SqliteBridge.Session.Basic
import SqliteBridge.Session.Connection
import SqliteBridge.Session.Handle
import SqliteBridge.Session.Query
import SqliteBridge.Session.Request
import SqliteBridge.Session.Rows
import SqliteBridge.Session.Statement
import SqliteBridge.Session.Tokens
import SqliteBridge.Sql.Connection
import SqliteBridge.Sql.Datum
import SqliteBridge.Sql.Execution
import SqliteBridge.Sql.Inquiry
import SqliteBridge.Sql.Library
import SqliteBridge.Sql.Plan
import SqliteBridge.Sql.Reading
import SqliteBridge.Sql.Relation
import SqliteBridge.Sql.Summation
import SqliteBridge.Sql.Syntax
import SqliteBridge.Sql.Token
import SqliteBridge.Text.GraphemeExtend
import SqliteBridge.Text.IdentifierCharacters
import SqliteBridge.Text.Lines
import SqliteBridge.Text.Quoted
import SqliteBridge.Text.Ranges
import SqliteBridge.Text.Unprintable
import SqliteBridge.Text.UpperCase
import SqliteBridge.Text.Utf8
import SqliteBridge.Value

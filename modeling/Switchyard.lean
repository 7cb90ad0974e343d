import Switchyard.Admin.Api
import Switchyard.Admin.MediaType
import Switchyard.Admin.Request
import Switchyard.Assoc
import Switchyard.Binary64
import Switchyard.Config.Basic
import Switchyard.Config.LogFilter
import Switchyard.Config.SocketAddress
import Switchyard.Config.Validation
import Switchyard.Counters
import Switchyard.Decimal.Layout
import Switchyard.Decimal.Numeral
import Switchyard.Decimal.Shortest
import Switchyard.Delivery
import Switchyard.Dispatch
import Switchyard.Event
import Switchyard.Filter.Builtin
import Switchyard.Filter.Compile
import Switchyard.Filter.Error
import Switchyard.Filter.Eval
import Switchyard.Filter.Field
import Switchyard.Filter.Host
import Switchyard.Filter.Lexer
import Switchyard.Filter.Node
import Switchyard.Filter.Parser
import Switchyard.Filter.Pattern
import Switchyard.Filter.Syntax
import Switchyard.Filter.Token
import Switchyard.Glob
import Switchyard.Json.Basic
import Switchyard.Json.Decode
import Switchyard.Json.Document
import Switchyard.Json.Reader
import Switchyard.Json.Typed
import Switchyard.Json.Writer
import Switchyard.Proofs.Admin.Front
import Switchyard.Proofs.Binary64
import Switchyard.Proofs.Config.Validation
import Switchyard.Proofs.Filter.Acceptance
import Switchyard.Proofs.Filter.BindingStack
import Switchyard.Proofs.Filter.BoundNames
import Switchyard.Proofs.Filter.Comparisons
import Switchyard.Proofs.Filter.DeMorgan
import Switchyard.Proofs.Filter.Denotation
import Switchyard.Proofs.Filter.DepthCounter
import Switchyard.Proofs.Filter.Extremum
import Switchyard.Proofs.Filter.Grammar
import Switchyard.Proofs.Filter.Height
import Switchyard.Proofs.Filter.HostCalls
import Switchyard.Proofs.Filter.Lexeme
import Switchyard.Proofs.Filter.Lowering
import Switchyard.Proofs.Filter.Nesting
import Switchyard.Proofs.Filter.OperandOrder
import Switchyard.Proofs.Filter.Optimisation
import Switchyard.Proofs.Filter.Outcome
import Switchyard.Proofs.Filter.Parsing
import Switchyard.Proofs.Filter.Places
import Switchyard.Proofs.Filter.Positions
import Switchyard.Proofs.Filter.Printing
import Switchyard.Proofs.Filter.Reading
import Switchyard.Proofs.Filter.Reads
import Switchyard.Proofs.Filter.Refusals
import Switchyard.Proofs.Filter.Registration
import Switchyard.Proofs.Filter.Scanning
import Switchyard.Proofs.Filter.Settings
import Switchyard.Proofs.Filter.ShortCircuit
import Switchyard.Proofs.Filter.Sources
import Switchyard.Proofs.Filter.StaticChecks
import Switchyard.Proofs.Filter.StaticCost
import Switchyard.Proofs.Filter.StaticType
import Switchyard.Proofs.Filter.Steps
import Switchyard.Proofs.Filter.ThreeValued
import Switchyard.Proofs.Filter.Unambiguous
import Switchyard.Proofs.Filter.VisitBound
import Switchyard.Proofs.Filter.VisitBudget
import Switchyard.Proofs.Filter.WellFormed
import Switchyard.Proofs.Filter.WrittenOrder
import Switchyard.Proofs.Glob
import Switchyard.Proofs.Json.Decode
import Switchyard.Proofs.Numeral
import Switchyard.Proofs.Registry.Candidates
import Switchyard.Proofs.Registry.ExpiredRules
import Switchyard.Proofs.Registry.Export
import Switchyard.Proofs.Registry.FileRules
import Switchyard.Proofs.Registry.History
import Switchyard.Proofs.Registry.Index
import Switchyard.Proofs.Registry.NoTrace
import Switchyard.Proofs.Registry.OrderedMap
import Switchyard.Proofs.Registry.Reconcile
import Switchyard.Proofs.Registry.Reload
import Switchyard.Proofs.Registry.RuleList
import Switchyard.Proofs.Registry.Statistics
import Switchyard.Proofs.Registry.SyncReport
import Switchyard.Proofs.Registry.Tracking
import Switchyard.Proofs.Result
import Switchyard.Proofs.Routing.Accounting
import Switchyard.Proofs.Routing.Cancellation
import Switchyard.Proofs.Routing.Delivery
import Switchyard.Proofs.Routing.FullScan
import Switchyard.Proofs.Routing.HeaderOrder
import Switchyard.Proofs.Rule.CommandDocument
import Switchyard.Proofs.Rule.Compile
import Switchyard.Proofs.Rule.Document
import Switchyard.Proofs.Rule.SameDefinition
import Switchyard.Proofs.Rule.SimpleFilter
import Switchyard.Proofs.Subject
import Switchyard.Proofs.Template
import Switchyard.Proofs.Time.SpanText
import Switchyard.Proofs.Value.Order
import Switchyard.Regex.Basic
import Switchyard.Regex.CharClass
import Switchyard.Regex.Matching
import Switchyard.Regex.Reader
import Switchyard.Regex.Size
import Switchyard.Registry.Basic
import Switchyard.Registry.Index
import Switchyard.Registry.Reconcile
import Switchyard.Router
import Switchyard.Rule.Basic
import Switchyard.Rule.Command
import Switchyard.Rule.Error
import Switchyard.Rule.Spec
import Switchyard.Shutdown
import Switchyard.Subject
import Switchyard.Template
import Switchyard.Text.Blank
import Switchyard.Text.CaseMap
import Switchyard.Text.CaseTable
import Switchyard.Text.Category
import Switchyard.Text.Charset
import Switchyard.Text.Percent
import Switchyard.Text.Property
import Switchyard.Text.Script
import Switchyard.Text.Search
import Switchyard.Text.Utf8
import Switchyard.Time.Calendar
import Switchyard.Time.Instant
import Switchyard.Time.Rfc3339
import Switchyard.Time.Span
import Switchyard.Time.SpanText
import Switchyard.Toml.Reader
import Switchyard.Toml.Scalar
import Switchyard.Toml.Table
import Switchyard.Value.Basic
import Switchyard.Value.Render

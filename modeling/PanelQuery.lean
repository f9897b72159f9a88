import PanelQuery.Config.Endpoint
import PanelQuery.Config.Settings
import PanelQuery.Cursor
import PanelQuery.Decimal.Double
import PanelQuery.Decimal.Fixed
import PanelQuery.Decimal.Numeral
import PanelQuery.Decimal.Shortest
import PanelQuery.Deploy.Coordinator
import PanelQuery.Deploy.Gate
import PanelQuery.Engine
import PanelQuery.Epoch
import PanelQuery.Error
import PanelQuery.Filter.Body
import PanelQuery.Filter.Item
import PanelQuery.Filter.Resource
import PanelQuery.Filter.Test
import PanelQuery.Filter.Where
import PanelQuery.Http.Extractor
import PanelQuery.Http.MediaType
import PanelQuery.Http.Message
import PanelQuery.Http.Path
import PanelQuery.Http.Service
import PanelQuery.Json.Bytes
import PanelQuery.Json.Document
import PanelQuery.Json.Record
import PanelQuery.Json.Token
import PanelQuery.Json.Value
import PanelQuery.Metrics.Compile
import PanelQuery.Metrics.Lookup
import PanelQuery.Metrics.Stage
import PanelQuery.Metrics.Tier
import PanelQuery.Pipeline.Basic
import PanelQuery.Pipeline.Codec
import PanelQuery.Pipeline.Path
import PanelQuery.Pipeline.Processor
import PanelQuery.Pipeline.Selection
import PanelQuery.Pipeline.Statement
import PanelQuery.Progress.Counters
import PanelQuery.Progress.Registry
import PanelQuery.Progress.Stream
import PanelQuery.Query.Attribute
import PanelQuery.Query.Basic
import PanelQuery.Query.Cast
import PanelQuery.Query.Codec
import PanelQuery.Query.Filter
import PanelQuery.Query.Operators
import PanelQuery.Rule.Label
import PanelQuery.Rule.Plan
import PanelQuery.Rule.Range
import PanelQuery.Run.Groups
import PanelQuery.Run.Task
import PanelQuery.Schema.Basic
import PanelQuery.Schema.Column
import PanelQuery.Sql.Condition
import PanelQuery.Sql.Piece
import PanelQuery.Sql.Value
import PanelQuery.Statement.Compile
import PanelQuery.Statement.Having
import PanelQuery.Statement.Order
import PanelQuery.Statement.Page
import PanelQuery.Statement.Table
import PanelQuery.Statement.Value
import PanelQuery.Text.Base64Url
import PanelQuery.Text.Blank
import PanelQuery.Text.CaseTable
import PanelQuery.Text.Lowercase
import PanelQuery.Proofs.Sql.Lexical
import PanelQuery.Proofs.Sql.Wording
import PanelQuery.Proofs.Agree
import PanelQuery.Proofs.Sql.Alike
import PanelQuery.Proofs.Sql.Reading
import PanelQuery.Proofs.Filter.Value
import PanelQuery.Proofs.Filter.Conditions
import PanelQuery.Proofs.Statement.Alike
import PanelQuery.Proofs.Metrics.Alike
import PanelQuery.Proofs.Metrics.Compile
import PanelQuery.Proofs.Query.Origin
import PanelQuery.Proofs.Query.Template
import PanelQuery.Proofs.Query.Injection
import PanelQuery.Proofs.Filter.Formula
import PanelQuery.Proofs.Filter.Lookup
import PanelQuery.Proofs.Statement.Rows
import PanelQuery.Proofs.Sql.Hole
import PanelQuery.Proofs.Statement.Hole
import PanelQuery.Proofs.Statement.Compile
import PanelQuery.Proofs.Statement.Passes
import PanelQuery.Proofs.Decimal.Word
import PanelQuery.Proofs.Epoch
import PanelQuery.Proofs.Query.Window
import PanelQuery.Proofs.Progress.Registry
import PanelQuery.Proofs.Progress.System
import PanelQuery.Proofs.Progress.Waking
import PanelQuery.Proofs.Progress.Ending
import PanelQuery.Proofs.Progress.Delivery
import PanelQuery.Proofs.Text.Base64Url
import PanelQuery.Proofs.Json.Token
import PanelQuery.Proofs.Json.Written
import PanelQuery.Proofs.Cursor
import PanelQuery.Proofs.Sql.Like
import PanelQuery.Proofs.Filter.Labels
import PanelQuery.Proofs.Filter.Hints
import PanelQuery.Proofs.Progress.Owner
import PanelQuery.Proofs.Progress.Reporting
import PanelQuery.Proofs.Run.Statements
import PanelQuery.Proofs.Run.Registration
import PanelQuery.Proofs.Decimal.Digits
import PanelQuery.Proofs.Decimal.Binary64
import PanelQuery.Proofs.Decimal.Positive
import PanelQuery.Proofs.Sql.Measure
import PanelQuery.Proofs.Sql.SelectList
import PanelQuery.Proofs.Metrics.Measures
import PanelQuery.Proofs.Metrics.Expression
import PanelQuery.Proofs.Metrics.Stage
import PanelQuery.Proofs.Metrics.Pipeline
import PanelQuery.Proofs.Metrics.Series
import PanelQuery.Proofs.Metrics.Columns
import PanelQuery.Proofs.Metrics.Rates
import PanelQuery.Proofs.Filter.Typed
import PanelQuery.Proofs.Metrics.Tier
import PanelQuery.Proofs.Query.Typed
import PanelQuery.Proofs.Metrics.Layers
import PanelQuery.Proofs.Metrics.BucketBound
import PanelQuery.Proofs.Pipeline.Record
import PanelQuery.Proofs.Pipeline.Marker
import PanelQuery.Proofs.Pipeline.Parts
import PanelQuery.Proofs.Pipeline.Tokens
import PanelQuery.Proofs.Pipeline.Grammar
import PanelQuery.Proofs.Pipeline.Regex
import PanelQuery.Proofs.Pipeline.Selection
import PanelQuery.Proofs.Progress.Counting
import PanelQuery.Proofs.Deploy.Gate
import PanelQuery.Proofs.Deploy.Deployments
import PanelQuery.Proofs.Rule.Range
import PanelQuery.Proofs.Http.Admission
import PanelQuery.Proofs.Run.Tracking
import PanelQuery.Proofs.Run.Guards
import PanelQuery.Proofs.Json.Sound
import PanelQuery.Proofs.Json.Record
import PanelQuery.Proofs.Query.Written
import PanelQuery.Proofs.Query.RoundTrip
import PanelQuery.Proofs.Statement.Page
import PanelQuery.Proofs.Sql.Literal
import PanelQuery.Proofs.Filter.Literal
import PanelQuery.Proofs.Decimal.Millionths
import PanelQuery.Proofs.Run.Groups
import PanelQuery.Proofs.Statement.Scope
import PanelQuery.Proofs.Query.Buckets
import PanelQuery.Proofs.Statement.Offset
import PanelQuery.Proofs.Query.Continuation
import PanelQuery.Proofs.Filter.Zero
import PanelQuery.Proofs.Pipeline.Deletion
import PanelQuery.Proofs.Rule.Points
import PanelQuery.Proofs.Statement.BodyKey
import PanelQuery.Proofs.Filter.LabelLookup
import PanelQuery.Proofs.Filter.BodyPath
import PanelQuery.Proofs.Filter.Cast

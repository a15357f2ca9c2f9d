import SqlPipeline.Action
import SqlPipeline.Build
import SqlPipeline.Config
import SqlPipeline.Dag
import SqlPipeline.Database.Backend
import SqlPipeline.Database.Duck.Backend
import SqlPipeline.Database.Duck.Cell
import SqlPipeline.Database.Duck.Connection
import SqlPipeline.Database.Error
import SqlPipeline.Database.Metadata
import SqlPipeline.Database.Rows
import SqlPipeline.Declaration
import SqlPipeline.Document
import SqlPipeline.Error
import SqlPipeline.Execution
import SqlPipeline.Files
import SqlPipeline.Graph
import SqlPipeline.Json.Number
import SqlPipeline.Json.Print
import SqlPipeline.Json.Read
import SqlPipeline.Json.Token
import SqlPipeline.Json.Value
import SqlPipeline.Name
import SqlPipeline.Number.Decimal
import SqlPipeline.Number.Digits
import SqlPipeline.Number.Double
import SqlPipeline.Number.Shortest
import SqlPipeline.Pattern
import SqlPipeline.Project
import SqlPipeline.Record.Action
import SqlPipeline.Record.Config
import SqlPipeline.Record.Declaration
import SqlPipeline.Record.Execution
import SqlPipeline.Record.Graph
import SqlPipeline.Relation
import SqlPipeline.Report
import SqlPipeline.Run.Readiness
import SqlPipeline.Run.Schedule
import SqlPipeline.Run.State
import SqlPipeline.Run.Verdict
import SqlPipeline.Run.Work
import SqlPipeline.Session
import SqlPipeline.Sorted
import SqlPipeline.Sql.Quote
import SqlPipeline.Sql.Statement
import SqlPipeline.Target
import SqlPipeline.Task
import SqlPipeline.Text.Blank
import SqlPipeline.Text.Quoted
import SqlPipeline.Text.Upper
import SqlPipeline.Timestamp
import SqlPipeline.Warehouse.Publish
import SqlPipeline.Warehouse.Reference
import SqlPipeline.Yaml.Cursor
import SqlPipeline.Yaml.Follow
import SqlPipeline.Yaml.Lexer
import SqlPipeline.Yaml.Node
import SqlPipeline.Yaml.Read
import SqlPipeline.Yaml.Scalar
import SqlPipeline.Yaml.Tag
import SqlPipeline.Yaml.Token
import SqlPipeline.Proofs.Run.Phase
import SqlPipeline.Proofs.Run.Intent
import SqlPipeline.Proofs.Run.Account
import SqlPipeline.Proofs.Run.Preparation
import SqlPipeline.Proofs.Run.Counters
import SqlPipeline.Proofs.Run.Tracking
import SqlPipeline.Proofs.Run.Precedence
import SqlPipeline.Proofs.Run.Handover
import SqlPipeline.Proofs.Run.Plan
import SqlPipeline.Proofs.Run.Fate
import SqlPipeline.Proofs.Dag.Edges
import SqlPipeline.Proofs.Dag.Search
import SqlPipeline.Proofs.Dag.Order
import SqlPipeline.Proofs.Dag.Ancestors
import SqlPipeline.Proofs.Dag.Cycle
import SqlPipeline.Proofs.Pattern.Expand
import SqlPipeline.Proofs.Run.Loss
import SqlPipeline.Proofs.Run.Report
import SqlPipeline.Proofs.Run.Alarm
import SqlPipeline.Proofs.Run.Cancellation
import SqlPipeline.Proofs.Run.Events
import SqlPipeline.Proofs.Run.Abort
import SqlPipeline.Proofs.Session
import SqlPipeline.Proofs.Build
import SqlPipeline.Proofs.Selection
import SqlPipeline.Proofs.Partial
import SqlPipeline.Proofs.Run.Success
import SqlPipeline.Proofs.Pipeline
import SqlPipeline.Proofs.Warehouse.Objects
import SqlPipeline.Proofs.Session.Registry
import SqlPipeline.Proofs.Session.Duplicates
import SqlPipeline.Proofs.Session.Settings
import SqlPipeline.Proofs.Sql.Quote
import SqlPipeline.Proofs.Warehouse.Frame
import SqlPipeline.Proofs.Session.Agreement
import SqlPipeline.Proofs.Session.Order
import SqlPipeline.Proofs.Session.Suffix
import SqlPipeline.Proofs.Session.Reference
import SqlPipeline.Proofs.Json.Lexemes
import SqlPipeline.Proofs.Json.Reading
import SqlPipeline.Proofs.Record.Action
import SqlPipeline.Proofs.Record.Graph
import SqlPipeline.Proofs.Sql.Path
import SqlPipeline.Proofs.Pattern.Expression
import SqlPipeline.Proofs.Pattern.Language
import SqlPipeline.Proofs.Warehouse.Reference
import SqlPipeline.Proofs.Warehouse.Decision
import SqlPipeline.Proofs.Choice
import SqlPipeline.Proofs.Outcome
import SqlPipeline.Proofs.Session.Dependencies
import SqlPipeline.Proofs.Warehouse.Schemas
import SqlPipeline.Proofs.Run.Execution
import SqlPipeline.Proofs.Run.Interrupt
import SqlPipeline.Proofs.Run.Release
import SqlPipeline.Proofs.Text.Trim
import SqlPipeline.Proofs.Database.Count
import SqlPipeline.Proofs.Sql.Token
import SqlPipeline.Proofs.Database.Lookup
import SqlPipeline.Proofs.Number.Double
import SqlPipeline.Proofs.Database.Assertion
import SqlPipeline.Proofs.Warehouse.Append

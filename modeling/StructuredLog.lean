import StructuredLog.Act
import StructuredLog.Codec.Document
import StructuredLog.Codec.Fields
import StructuredLog.Codec.Message
import StructuredLog.Codec.Report
import StructuredLog.Codec.Scenario
import StructuredLog.Codec.Settings
import StructuredLog.Codec.View
import StructuredLog.CommandLine.Arguments
import StructuredLog.CommandLine.Outside
import StructuredLog.CommandLine.Report
import StructuredLog.CommandLine.Run
import StructuredLog.Config.Build
import StructuredLog.Config.Format
import StructuredLog.Config.Load
import StructuredLog.Config.Overrides
import StructuredLog.Config.Path
import StructuredLog.Config.Settings
import StructuredLog.Config.Toml
import StructuredLog.Config.Toml.Bare
import StructuredLog.Config.Toml.Scalar
import StructuredLog.Config.Toml.Table
import StructuredLog.Config.Validation
import StructuredLog.Config.Yaml
import StructuredLog.Config.Yaml.Cursor
import StructuredLog.Config.Yaml.Scalar
import StructuredLog.Context
import StructuredLog.Diagnostics.Filter
import StructuredLog.Diagnostics.Line
import StructuredLog.Diagnostics.Settings
import StructuredLog.Event
import StructuredLog.Ids
import StructuredLog.Inspect
import StructuredLog.Json.Basic
import StructuredLog.Json.Document
import StructuredLog.Json.Reader
import StructuredLog.Level
import StructuredLog.Logger
import StructuredLog.Main
import StructuredLog.Number.Double
import StructuredLog.Number.Literal
import StructuredLog.Number.Power
import StructuredLog.Number.Reading
import StructuredLog.Number.Shortest
import StructuredLog.Number.Text
import StructuredLog.Platform
import StructuredLog.Proofs.Act
import StructuredLog.Proofs.Context.Program
import StructuredLog.Proofs.Context.Stack
import StructuredLog.Proofs.Context.Unwinding
import StructuredLog.Proofs.Ids
import StructuredLog.Proofs.Logger.Call
import StructuredLog.Proofs.Logger.Family
import StructuredLog.Proofs.Logger.Gating
import StructuredLog.Proofs.Record.Settled
import StructuredLog.Proofs.Template.Grammar
import StructuredLog.Proofs.Template.Literal
import StructuredLog.Proofs.Template.RoundTrip
import StructuredLog.Proofs.Transport.Dispatch
import StructuredLog.Proofs.Transport.Manager
import StructuredLog.Record.Basic
import StructuredLog.Record.Read
import StructuredLog.Scenario.Perform
import StructuredLog.Scenario.Session
import StructuredLog.Scenario.Step
import StructuredLog.Scenario.Transcript
import StructuredLog.Subscription
import StructuredLog.Template.Basic
import StructuredLog.Template.Chars
import StructuredLog.Template.Parser
import StructuredLog.Template.Position
import StructuredLog.Template.Printer
import StructuredLog.Template.Session
import StructuredLog.Template.Token
import StructuredLog.Text.Blank
import StructuredLog.Text.Digits
import StructuredLog.Text.Hidden
import StructuredLog.Text.Letters
import StructuredLog.Text.Quoted
import StructuredLog.Text.Ranges
import StructuredLog.Text.Style
import StructuredLog.Time
import StructuredLog.Transport.Basic
import StructuredLog.Transport.Console
import StructuredLog.Transport.Error
import StructuredLog.Transport.Manager
import StructuredLog.Transport.Memory
import StructuredLog.Transport.Send
import StructuredLog.Proofs.Template.Expressible
import StructuredLog.Proofs.Template.Spans
import StructuredLog.Proofs.Record.Reads
import StructuredLog.Proofs.Config.Transports
import StructuredLog.Proofs.Record.ComputedOnce
import StructuredLog.Proofs.CommandLine.Verdict
import StructuredLog.Proofs.Logger.Containment
import StructuredLog.Proofs.Record.Shapes
import StructuredLog.Proofs.Template.Composition
import StructuredLog.Proofs.Template.LifeCycle
import StructuredLog.Proofs.Codec.Fields
import StructuredLog.Proofs.Codec.Messages
import StructuredLog.Proofs.Codec.Settings
import StructuredLog.Proofs.CommandLine.Emit
import StructuredLog.Proofs.Template.Faults
import StructuredLog.Proofs.Record.Calm
import StructuredLog.Proofs.Transport.Deliveries
import StructuredLog.Proofs.Logger.FanOut
import StructuredLog.Proofs.Template.Sequences
import StructuredLog.Proofs.Template.Padding
import StructuredLog.Proofs.Transport.OrderedMap
import StructuredLog.Proofs.Subscription.Registry
import StructuredLog.Proofs.Subscription.Notification
import StructuredLog.Proofs.Subscription.Handles
import StructuredLog.Proofs.Transport.Memory
import StructuredLog.Proofs.Template.Substitution
import StructuredLog.Proofs.Text.Blank
import StructuredLog.Proofs.Config.Environment
import StructuredLog.Proofs.Config.Validity
import StructuredLog.Proofs.Config.Problems
import StructuredLog.Proofs.Text.Styled
import StructuredLog.Proofs.Transport.ConsoleLines
import StructuredLog.Proofs.Text.Lines
import StructuredLog.Proofs.CommandLine.Caret

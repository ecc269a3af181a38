import LanguageClient.Action.Kind
import LanguageClient.Action.Run
import LanguageClient.Client.Basic
import LanguageClient.Client.Call
import LanguageClient.Client.Errand
import LanguageClient.Client.Workbench
import LanguageClient.CommandLine.Command
import LanguageClient.CommandLine.Grammar
import LanguageClient.CommandLine.Location
import LanguageClient.CommandLine.Report
import LanguageClient.CommandLine.Run
import LanguageClient.CommandLine.Work
import LanguageClient.Compute
import LanguageClient.Connection.Basic
import LanguageClient.Connection.Documents
import LanguageClient.Connection.Handshake
import LanguageClient.Connection.Reader
import LanguageClient.Connection.Request
import LanguageClient.Data.Table
import LanguageClient.Decode.Fault
import LanguageClient.Decode.Record
import LanguageClient.Decode.Scalar
import LanguageClient.Discovery
import LanguageClient.Document.Position
import LanguageClient.Document.Uri
import LanguageClient.Editor.Basic
import LanguageClient.Editor.Canvas
import LanguageClient.Editor.Headless
import LanguageClient.Editor.Staged
import LanguageClient.Endpoint
import LanguageClient.Highlight.Kind
import LanguageClient.Highlight.Overlay
import LanguageClient.Highlight.Payload
import LanguageClient.Highlight.Style
import LanguageClient.Json.Basic
import LanguageClient.Json.Numeral
import LanguageClient.Json.Parser
import LanguageClient.Json.Printer
import LanguageClient.Main
import LanguageClient.Proofs.Client.Acting
import LanguageClient.Proofs.Client.Along
import LanguageClient.Proofs.Client.Answering
import LanguageClient.Proofs.Client.Barriers
import LanguageClient.Proofs.Client.ClosedDocuments
import LanguageClient.Proofs.Client.ConnectionLoss
import LanguageClient.Proofs.Client.Discipline
import LanguageClient.Proofs.Client.Edits
import LanguageClient.Proofs.Client.Gesture
import LanguageClient.Proofs.Client.Happening
import LanguageClient.Proofs.Client.Independence
import LanguageClient.Proofs.Client.Lifecycle
import LanguageClient.Proofs.Client.Lines
import LanguageClient.Proofs.Client.Mirror
import LanguageClient.Proofs.Client.OneByOne
import LanguageClient.Proofs.Client.Outstanding
import LanguageClient.Proofs.Client.Painting
import LanguageClient.Proofs.Client.Payloads
import LanguageClient.Proofs.Client.Premises
import LanguageClient.Proofs.Client.Queries
import LanguageClient.Proofs.Client.Queue
import LanguageClient.Proofs.Client.Refusals
import LanguageClient.Proofs.Client.Saving
import LanguageClient.Proofs.Client.SingleConnection
import LanguageClient.Proofs.Client.Telling
import LanguageClient.Proofs.Client.Traffic
import LanguageClient.Proofs.Client.Unseen
import LanguageClient.Proofs.Client.Utterances
import LanguageClient.Proofs.Client.Verdicts
import LanguageClient.Proofs.Client.WireOrder
import LanguageClient.Proofs.CommandLine.Location
import LanguageClient.Proofs.Connection.Agreement
import LanguageClient.Proofs.Connection.Attempts
import LanguageClient.Proofs.Connection.Cancellation
import LanguageClient.Proofs.Connection.Correlation
import LanguageClient.Proofs.Connection.Due
import LanguageClient.Proofs.Connection.Exchange
import LanguageClient.Proofs.Connection.Flags
import LanguageClient.Proofs.Connection.Loss
import LanguageClient.Proofs.Connection.Move
import LanguageClient.Proofs.Connection.NoOrphans
import LanguageClient.Proofs.Connection.Notes
import LanguageClient.Proofs.Connection.Numbering
import LanguageClient.Proofs.Connection.Reader
import LanguageClient.Proofs.Connection.Replies
import LanguageClient.Proofs.Connection.Request
import LanguageClient.Proofs.Connection.Rounds
import LanguageClient.Proofs.Connection.Slots
import LanguageClient.Proofs.Connection.Telling
import LanguageClient.Proofs.Connection.Verdicts
import LanguageClient.Proofs.Data.History
import LanguageClient.Proofs.Data.Outcome
import LanguageClient.Proofs.Data.Table
import LanguageClient.Proofs.Decode.Defaults
import LanguageClient.Proofs.Decode.Record
import LanguageClient.Proofs.Decode.Written
import LanguageClient.Proofs.Discovery
import LanguageClient.Proofs.Document.Escapes
import LanguageClient.Proofs.Document.Uri
import LanguageClient.Proofs.Editor.Audit
import LanguageClient.Proofs.Editor.Canvas
import LanguageClient.Proofs.Editor.Decorated
import LanguageClient.Proofs.Editor.Filed
import LanguageClient.Proofs.Editor.Histories
import LanguageClient.Proofs.Highlight.Absence
import LanguageClient.Proofs.Highlight.Accounts
import LanguageClient.Proofs.Highlight.Kinds
import LanguageClient.Proofs.Highlight.Locality
import LanguageClient.Proofs.Highlight.Rendering
import LanguageClient.Proofs.Highlight.Replacement
import LanguageClient.Proofs.Highlight.Scene
import LanguageClient.Proofs.Highlight.Upkeep
import LanguageClient.Proofs.Json.Members
import LanguageClient.Proofs.Json.Numeral
import LanguageClient.Proofs.Json.Order
import LanguageClient.Proofs.Json.RoundTrip
import LanguageClient.Proofs.Protocol.Chunks
import LanguageClient.Proofs.Protocol.Codec
import LanguageClient.Proofs.Protocol.Framing
import LanguageClient.Proofs.Protocol.Grammar
import LanguageClient.Proofs.Protocol.Records
import LanguageClient.Proofs.Session.Along
import LanguageClient.Proofs.Session.Drift
import LanguageClient.Proofs.Session.Front
import LanguageClient.Proofs.Session.Lifecycle
import LanguageClient.Proofs.Session.Takedown
import LanguageClient.Proofs.Session.Telling
import LanguageClient.Proofs.Session.Traffic
import LanguageClient.Proofs.Session.Watch
import LanguageClient.Proofs.Settings.Overlay
import LanguageClient.Proofs.Settings.Precedence
import LanguageClient.Proofs.Settings.Shape
import LanguageClient.Proofs.Settings.Sources
import LanguageClient.Proofs.Storage.FileTree
import LanguageClient.Proofs.Storage.Path
import LanguageClient.Proofs.Supervision.Custody
import LanguageClient.Proofs.Supervision.Output
import LanguageClient.Proofs.Supervision.Silence
import LanguageClient.Proofs.Task.Progress
import LanguageClient.Proofs.Text.Blank
import LanguageClient.Proofs.Text.Decimal
import LanguageClient.Proofs.Text.Offset
import LanguageClient.Proofs.Text.Seam
import LanguageClient.Proofs.Text.Utf8
import LanguageClient.Proofs.Toml.Value
import LanguageClient.Protocol.Chunks
import LanguageClient.Protocol.Frame
import LanguageClient.Protocol.Lifecycle
import LanguageClient.Protocol.Message
import LanguageClient.Rehearsal.FarEnd
import LanguageClient.Rehearsal.Hosted
import LanguageClient.Rehearsal.Household
import LanguageClient.Rehearsal.Program
import LanguageClient.Rehearsal.Shell.Arithmetic
import LanguageClient.Rehearsal.Shell.Builtin
import LanguageClient.Rehearsal.Shell.Bytes
import LanguageClient.Rehearsal.Shell.Condition
import LanguageClient.Rehearsal.Shell.Expression
import LanguageClient.Rehearsal.Shell.Field
import LanguageClient.Rehearsal.Shell.Format
import LanguageClient.Rehearsal.Shell.Lexis
import LanguageClient.Rehearsal.Shell.Pattern
import LanguageClient.Rehearsal.Shell.Reader
import LanguageClient.Rehearsal.Shell.Run
import LanguageClient.Rehearsal.Shell.State
import LanguageClient.Rehearsal.Shell.Tree
import LanguageClient.Rehearsal.Shell.Utility
import LanguageClient.Rehearsal.Stage
import LanguageClient.Session.Basic
import LanguageClient.Session.Failure
import LanguageClient.Session.Lifecycle
import LanguageClient.Session.State
import LanguageClient.Settings.Basic
import LanguageClient.Settings.Load
import LanguageClient.Settings.Mode
import LanguageClient.Settings.Overlay
import LanguageClient.Storage.FileTree
import LanguageClient.Storage.IoError
import LanguageClient.Storage.Path
import LanguageClient.Supervision.ExitEvent
import LanguageClient.Supervision.LogLines
import LanguageClient.Supervision.Process
import LanguageClient.Task.Lock
import LanguageClient.Task.Progress
import LanguageClient.Text.Binary64
import LanguageClient.Text.Cased
import LanguageClient.Text.Classes
import LanguageClient.Text.Decimal
import LanguageClient.Text.LowerCase
import LanguageClient.Text.Printable
import LanguageClient.Text.Quoted
import LanguageClient.Text.Reader
import LanguageClient.Text.Utf8
import LanguageClient.Toml.Date
import LanguageClient.Toml.Document
import LanguageClient.Toml.Node
import LanguageClient.Toml.Scalar
import LanguageClient.Toml.Table

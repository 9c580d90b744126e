import BulkTransfer.CommandLine.Arguments
import BulkTransfer.CommandLine.Execution
import BulkTransfer.Config.Document
import BulkTransfer.Config.Error
import BulkTransfer.Config.Loader
import BulkTransfer.Config.Shape
import BulkTransfer.Csv.Formatter
import BulkTransfer.Csv.Writer
import BulkTransfer.Digest.Blake3
import BulkTransfer.Digest.Fnv
import BulkTransfer.Disk.Basic
import BulkTransfer.Disk.Change
import BulkTransfer.Disk.Error
import BulkTransfer.Disk.Path
import BulkTransfer.Local.Input
import BulkTransfer.Local.Output
import BulkTransfer.Ltsv.Fields
import BulkTransfer.Ltsv.Parser
import BulkTransfer.Main
import BulkTransfer.Number.Double
import BulkTransfer.Number.Reader
import BulkTransfer.Number.Shortest
import BulkTransfer.Number.Style
import BulkTransfer.Page.Cell
import BulkTransfer.Page.CellWord
import BulkTransfer.Page.Error
import BulkTransfer.Page.Layout
import BulkTransfer.Page.Pool
import BulkTransfer.Page.Reader
import BulkTransfer.Page.Writer
import BulkTransfer.Plugin.BuiltIn
import BulkTransfer.Plugin.Error
import BulkTransfer.Plugin.Feed
import BulkTransfer.Plugin.FileBased
import BulkTransfer.Plugin.Input
import BulkTransfer.Plugin.Output
import BulkTransfer.Plugin.Registry
import BulkTransfer.Plugin.Sink
import BulkTransfer.Plugin.Transaction
import BulkTransfer.Proofs.Config.Merging
import BulkTransfer.Proofs.Config.Nulls
import BulkTransfer.Proofs.Config.Precedence
import BulkTransfer.Proofs.Config.Scalars
import BulkTransfer.Proofs.Csv.Reading
import BulkTransfer.Proofs.Csv.Rendering
import BulkTransfer.Proofs.Csv.Unambiguity
import BulkTransfer.Proofs.Disk.Agreement
import BulkTransfer.Proofs.Disk.Names
import BulkTransfer.Proofs.Disk.Ways
import BulkTransfer.Proofs.Local.Atomicity
import BulkTransfer.Proofs.Local.Directories
import BulkTransfer.Proofs.Local.Finding
import BulkTransfer.Proofs.Local.Listing
import BulkTransfer.Proofs.Local.Naming
import BulkTransfer.Proofs.Local.Output
import BulkTransfer.Proofs.Local.OutputInStep
import BulkTransfer.Proofs.Local.OutputPaths
import BulkTransfer.Proofs.Ltsv.Joining
import BulkTransfer.Proofs.Ltsv.Ordered
import BulkTransfer.Proofs.Ltsv.Parsing
import BulkTransfer.Proofs.Ltsv.Rows
import BulkTransfer.Proofs.Page.Layout
import BulkTransfer.Proofs.Page.Likeness
import BulkTransfer.Proofs.Page.Oversized
import BulkTransfer.Proofs.Page.Partition
import BulkTransfer.Proofs.Page.Rotation
import BulkTransfer.Proofs.Page.RoundTrip
import BulkTransfer.Proofs.Page.Row
import BulkTransfer.Proofs.Page.RowReader
import BulkTransfer.Proofs.Page.Sharing
import BulkTransfer.Proofs.Page.Staging
import BulkTransfer.Proofs.Plugin.Building
import BulkTransfer.Proofs.Plugin.CodecOrder
import BulkTransfer.Proofs.Plugin.Codecs
import BulkTransfer.Proofs.Plugin.Delivery
import BulkTransfer.Proofs.Plugin.FileCalls
import BulkTransfer.Proofs.Plugin.Frozen
import BulkTransfer.Proofs.Plugin.Nesting
import BulkTransfer.Proofs.Plugin.Passage
import BulkTransfer.Proofs.Plugin.Sink
import BulkTransfer.Proofs.Text.LineDecoder
import BulkTransfer.Proofs.Text.Utf8
import BulkTransfer.Proofs.Time.Calendar
import BulkTransfer.Proofs.Time.DefaultText
import BulkTransfer.Proofs.Transfer.Buffering
import BulkTransfer.Proofs.Transfer.BuiltIn
import BulkTransfer.Proofs.Transfer.Chain
import BulkTransfer.Proofs.Transfer.Charter
import BulkTransfer.Proofs.Transfer.CleaningUp
import BulkTransfer.Proofs.Transfer.FailureReport
import BulkTransfer.Proofs.Transfer.FileSettling
import BulkTransfer.Proofs.Transfer.FilterComposition
import BulkTransfer.Proofs.Transfer.FilterOrder
import BulkTransfer.Proofs.Transfer.Filtering
import BulkTransfer.Proofs.Transfer.Flight
import BulkTransfer.Proofs.Transfer.Freezing
import BulkTransfer.Proofs.Transfer.Increments
import BulkTransfer.Proofs.Transfer.Journey
import BulkTransfer.Proofs.Transfer.OrderFlight
import BulkTransfer.Proofs.Transfer.Pending
import BulkTransfer.Proofs.Transfer.Progress
import BulkTransfer.Proofs.Transfer.Recollection
import BulkTransfer.Proofs.Transfer.Resumption
import BulkTransfer.Proofs.Transfer.Scheduling
import BulkTransfer.Proofs.Transfer.Sessions
import BulkTransfer.Proofs.Transfer.Settling
import BulkTransfer.Proofs.Transfer.Soundness
import BulkTransfer.Proofs.Transfer.StateCell
import BulkTransfer.Proofs.Transfer.TaskInStep
import BulkTransfer.Proofs.Transfer.Thawing
import BulkTransfer.Proofs.Transfer.Turns
import BulkTransfer.Proofs.Transfer.WholeOrNothing
import BulkTransfer.Proofs.Transfer.Workers
import BulkTransfer.Proofs.World.Region
import BulkTransfer.Proofs.World.Trails
import BulkTransfer.Record.Counting
import BulkTransfer.Record.Rename
import BulkTransfer.Rehearsal.Plugins
import BulkTransfer.Rehearsal.Recorder
import BulkTransfer.Rehearsal.Script
import BulkTransfer.Rehearsal.Shapes
import BulkTransfer.Schema.Basic
import BulkTransfer.Schema.ColumnList
import BulkTransfer.Schema.ColumnType
import BulkTransfer.Text.Blank
import BulkTransfer.Text.Hex
import BulkTransfer.Text.LineDecoder
import BulkTransfer.Text.Lines
import BulkTransfer.Text.Newline
import BulkTransfer.Text.Printable
import BulkTransfer.Text.Utf8
import BulkTransfer.Time.Calendar
import BulkTransfer.Time.Fields
import BulkTransfer.Time.Instant
import BulkTransfer.Time.Pattern
import BulkTransfer.Time.PatternReader
import BulkTransfer.Time.PatternWriter
import BulkTransfer.Time.Timestamp
import BulkTransfer.Transfer.ExecConfig
import BulkTransfer.Transfer.Executor
import BulkTransfer.Transfer.Plugins
import BulkTransfer.Transfer.Progress
import BulkTransfer.Transfer.ResumeState
import BulkTransfer.Transfer.RunId
import BulkTransfer.Transfer.Runner
import BulkTransfer.Transfer.StateStore
import BulkTransfer.Transfer.TaskPlan
import BulkTransfer.Transfer.Workers
import BulkTransfer.Tree.Basic
import BulkTransfer.Tree.Decode
import BulkTransfer.Tree.Reader
import BulkTransfer.Tree.Writer
import BulkTransfer.World.Basic
import BulkTransfer.World.Program
import BulkTransfer.Yaml.Error
import BulkTransfer.Yaml.Form
import BulkTransfer.Yaml.Lexer
import BulkTransfer.Yaml.Node
import BulkTransfer.Yaml.Scalar
import BulkTransfer.Yaml.Token
import BulkTransfer.Yaml.Writer

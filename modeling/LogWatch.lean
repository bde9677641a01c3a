import LogWatch.Batch
import LogWatch.CommandLine
import LogWatch.Config.Basic
import LogWatch.Config.Environment
import LogWatch.Config.Reader
import LogWatch.Config.Redaction
import LogWatch.Config.Validation
import LogWatch.Config.Writer
import LogWatch.Daemon.Setup
import LogWatch.Daemon.State
import LogWatch.Delivery.Spool
import LogWatch.Delivery.Stamp
import LogWatch.Delivery.Webhook
import LogWatch.Detector.Basic
import LogWatch.Detector.FieldPattern
import LogWatch.Detector.Format
import LogWatch.Detector.Inquiry
import LogWatch.Detector.KernelTrail
import LogWatch.Detector.LinePattern
import LogWatch.Fault
import LogWatch.Host.Basic
import LogWatch.Host.Feed
import LogWatch.Host.FileTree
import LogWatch.Host.Launch
import LogWatch.Host.PidFile
import LogWatch.Host.Programs
import LogWatch.Host.Rehearsal
import LogWatch.Host.SpoolBench
import LogWatch.HostState.Cache
import LogWatch.HostState.Sanitizer
import LogWatch.Incident
import LogWatch.Json.Reader
import LogWatch.Json.Token
import LogWatch.Json.Value
import LogWatch.Json.Writer
import LogWatch.LineReader
import LogWatch.LogFilter
import LogWatch.Main
import LogWatch.Metrics.Catalog
import LogWatch.Metrics.Exposition
import LogWatch.Metrics.Tally
import LogWatch.Monitor.Action
import LogWatch.Monitor.Choice
import LogWatch.Monitor.Plan
import LogWatch.Monitor.State
import LogWatch.Net.SocketAddress
import LogWatch.Number.Binary64
import LogWatch.Number.Plain
import LogWatch.Number.Shortest
import LogWatch.Outbox
import LogWatch.Proofs.Batching
import LogWatch.Proofs.Config.Precedence
import LogWatch.Proofs.Config.Redaction
import LogWatch.Proofs.Daemon.Delivery
import LogWatch.Proofs.Daemon.Setup
import LogWatch.Proofs.Daemon.Timers
import LogWatch.Proofs.Delivery.Calls
import LogWatch.Proofs.Delivery.Resending
import LogWatch.Proofs.Delivery.Spool
import LogWatch.Proofs.Delivery.UnfinishedLine
import LogWatch.Proofs.Detector.KeptLine
import LogWatch.Proofs.Detector.KernelTrail
import LogWatch.Proofs.Detector.LinePattern
import LogWatch.Proofs.Host.Runs
import LogWatch.Proofs.HostState.Sanitizer
import LogWatch.Proofs.Incident
import LogWatch.Proofs.Json.Numbers
import LogWatch.Proofs.Json.Preceded
import LogWatch.Proofs.Json.Reader
import LogWatch.Proofs.Json.Rereading
import LogWatch.Proofs.Json.Tokens
import LogWatch.Proofs.Json.Values
import LogWatch.Proofs.Json.Writer
import LogWatch.Proofs.LineSplitting
import LogWatch.Proofs.LineTruncation
import LogWatch.Proofs.Monitor.Admission
import LogWatch.Proofs.Monitor.Conservation
import LogWatch.Proofs.Monitor.FirstLine
import LogWatch.Proofs.Monitor.Flushing
import LogWatch.Proofs.Monitor.History
import LogWatch.Proofs.Monitor.ReportSize
import LogWatch.Proofs.Number.Binary64
import LogWatch.Proofs.Number.Plain
import LogWatch.Proofs.Positional.Dates
import LogWatch.Proofs.Positional.Execution
import LogWatch.Proofs.Positional.Fields
import LogWatch.Proofs.Positional.Readers
import LogWatch.Proofs.Positional.Span
import LogWatch.Proofs.Positional.Timestamp
import LogWatch.Proofs.Report.Rereading
import LogWatch.Proofs.Silence
import LogWatch.Proofs.Source.Following
import LogWatch.Proofs.Source.SyslogConnections
import LogWatch.Proofs.Source.SyslogDatagrams
import LogWatch.Proofs.Source.SyslogFraming
import LogWatch.Proofs.Source.SyslogLines
import LogWatch.Proofs.Text.Lines
import LogWatch.Proofs.Text.Lossy
import LogWatch.Proofs.Text.Octets
import LogWatch.Proofs.Text.Utf8
import LogWatch.Proofs.Time.Civil
import LogWatch.Proofs.Time.Dates
import LogWatch.Proofs.Time.Spans
import LogWatch.Proofs.Timestamp.Extract
import LogWatch.Proofs.Timestamp.Fields
import LogWatch.Proofs.Timestamp.Iso
import LogWatch.Proofs.Timestamp.Syslog
import LogWatch.Proofs.Windows
import LogWatch.RateLimiter
import LogWatch.Regex.Basic
import LogWatch.Regex.Bracket
import LogWatch.Regex.Escape
import LogWatch.Regex.Mode
import LogWatch.Regex.NamedSet
import LogWatch.Regex.Reader
import LogWatch.Report.Basic
import LogWatch.Report.Identity
import LogWatch.Report.Reader
import LogWatch.Severity
import LogWatch.Source.Basic
import LogWatch.Source.Follower
import LogWatch.Source.SyslogConnections
import LogWatch.Source.SyslogFraming
import LogWatch.Text.Blank
import LogWatch.Text.Lines
import LogWatch.Text.Octets
import LogWatch.Text.Utf8
import LogWatch.Time.Civil
import LogWatch.Time.Epoch
import LogWatch.Time.Span
import LogWatch.Time.Ticker
import LogWatch.Timestamp.Basic
import LogWatch.Timestamp.DateTime
import LogWatch.Timestamp.Extract
import LogWatch.Timestamp.Iso
import LogWatch.Timestamp.Kernel
import LogWatch.Timestamp.Nginx
import LogWatch.Timestamp.Syslog
import LogWatch.Toml.Quoted
import LogWatch.Toml.Reader
import LogWatch.Toml.Scalar
import LogWatch.Toml.Value
import LogWatch.Toml.Writer
import LogWatch.Unicode.Category
import LogWatch.Unicode.CodeSet
import LogWatch.Unicode.Folding
import LogWatch.Unicode.Property
import LogWatch.Unicode.Script
import LogWatch.Watchdog

import TelemetrySpool.Bytes
import TelemetrySpool.Compression.Gzip
import TelemetrySpool.Compression.Inflate
import TelemetrySpool.Compression.PrefixCode
import TelemetrySpool.Config.Basic
import TelemetrySpool.Config.Loading
import TelemetrySpool.Config.Reading
import TelemetrySpool.Event
import TelemetrySpool.Files.Path
import TelemetrySpool.Files.Tree
import TelemetrySpool.Files.Volume
import TelemetrySpool.Health
import TelemetrySpool.Json.Basic
import TelemetrySpool.Json.Number
import TelemetrySpool.Json.Reader
import TelemetrySpool.Json.Writer
import TelemetrySpool.Lookup
import TelemetrySpool.Main
import TelemetrySpool.Net.IpAddress
import TelemetrySpool.Number.Double
import TelemetrySpool.Number.Shortest
import TelemetrySpool.Pipeline
import TelemetrySpool.Proofs.Config.Precedence
import TelemetrySpool.Proofs.Config.Validity
import TelemetrySpool.Proofs.Files.Absence
import TelemetrySpool.Proofs.Files.Ancestry
import TelemetrySpool.Proofs.Files.Growth
import TelemetrySpool.Proofs.Files.Parts
import TelemetrySpool.Proofs.Files.Removal
import TelemetrySpool.Proofs.Files.Resolution
import TelemetrySpool.Proofs.Files.Route
import TelemetrySpool.Proofs.Json.Brackets
import TelemetrySpool.Proofs.Json.Inline
import TelemetrySpool.Proofs.Json.Literal
import TelemetrySpool.Proofs.Json.Numeral
import TelemetrySpool.Proofs.Json.Parts
import TelemetrySpool.Proofs.Json.ReadBack
import TelemetrySpool.Proofs.Json.Regular
import TelemetrySpool.Proofs.Json.WhiteSpace
import TelemetrySpool.Proofs.Net.Socket
import TelemetrySpool.Proofs.Number.Rounding
import TelemetrySpool.Proofs.Outcome
import TelemetrySpool.Proofs.Receiver.Acknowledgement
import TelemetrySpool.Proofs.Receiver.Agreement
import TelemetrySpool.Proofs.Receiver.Classification
import TelemetrySpool.Proofs.Receiver.Closing
import TelemetrySpool.Proofs.Receiver.Correlation
import TelemetrySpool.Proofs.Receiver.Isolation
import TelemetrySpool.Proofs.Receiver.Library
import TelemetrySpool.Proofs.Receiver.MetricIngestion
import TelemetrySpool.Proofs.Receiver.Posted
import TelemetrySpool.Proofs.Receiver.Recovery
import TelemetrySpool.Proofs.Receiver.Wiring
import TelemetrySpool.Proofs.Respect
import TelemetrySpool.Proofs.Schema.Carriage
import TelemetrySpool.Proofs.Schema.Content
import TelemetrySpool.Proofs.Schema.Delivery
import TelemetrySpool.Proofs.Schema.Format
import TelemetrySpool.Proofs.Schema.Message
import TelemetrySpool.Proofs.Schema.Reading
import TelemetrySpool.Proofs.Schema.Scalar
import TelemetrySpool.Proofs.Schema.Settled
import TelemetrySpool.Proofs.Service.Start
import TelemetrySpool.Proofs.Sink.Atomicity
import TelemetrySpool.Proofs.Sink.Calls
import TelemetrySpool.Proofs.Sink.History
import TelemetrySpool.Proofs.Sink.Offer
import TelemetrySpool.Proofs.Sink.Progress
import TelemetrySpool.Proofs.Sink.Write
import TelemetrySpool.Proofs.Spool.Base
import TelemetrySpool.Proofs.Spool.Bounds
import TelemetrySpool.Proofs.Spool.Clearing
import TelemetrySpool.Proofs.Spool.Command
import TelemetrySpool.Proofs.Spool.Company
import TelemetrySpool.Proofs.Spool.Confinement
import TelemetrySpool.Proofs.Spool.Conservation
import TelemetrySpool.Proofs.Spool.Crossing
import TelemetrySpool.Proofs.Spool.Deeds
import TelemetrySpool.Proofs.Spool.Forward
import TelemetrySpool.Proofs.Spool.Founding
import TelemetrySpool.Proofs.Spool.Interleaving
import TelemetrySpool.Proofs.Spool.Leases
import TelemetrySpool.Proofs.Spool.Ledger
import TelemetrySpool.Proofs.Spool.Listing
import TelemetrySpool.Proofs.Spool.Naming
import TelemetrySpool.Proofs.Spool.Renaming
import TelemetrySpool.Proofs.Spool.Restart
import TelemetrySpool.Proofs.Spool.Room
import TelemetrySpool.Proofs.Spool.Selection
import TelemetrySpool.Proofs.Spool.Separation
import TelemetrySpool.Proofs.Spool.Twins
import TelemetrySpool.Proofs.Spool.Untouched
import TelemetrySpool.Proofs.Telemetry.AnyValue
import TelemetrySpool.Proofs.Telemetry.BinaryMessages
import TelemetrySpool.Proofs.Telemetry.BinaryValue
import TelemetrySpool.Proofs.Telemetry.Contents
import TelemetrySpool.Proofs.Telemetry.Framing
import TelemetrySpool.Proofs.Telemetry.Indentation
import TelemetrySpool.Proofs.Telemetry.Messages
import TelemetrySpool.Proofs.Telemetry.MetricReading
import TelemetrySpool.Proofs.Telemetry.Replay
import TelemetrySpool.Proofs.Text.Utf8
import TelemetrySpool.Proofs.Time.Order
import TelemetrySpool.Proofs.Time.Stamp
import TelemetrySpool.Proofs.Wire.Fields
import TelemetrySpool.Receiver.Basic
import TelemetrySpool.Receiver.Grpc
import TelemetrySpool.Receiver.Http
import TelemetrySpool.Record
import TelemetrySpool.Schema.Basic
import TelemetrySpool.Schema.Format
import TelemetrySpool.Schema.Scalar
import TelemetrySpool.Service
import TelemetrySpool.Signal
import TelemetrySpool.Sink.Basic
import TelemetrySpool.Sink.Error
import TelemetrySpool.Sink.File
import TelemetrySpool.Sink.Outlets
import TelemetrySpool.Spool.FileName
import TelemetrySpool.Spool.Rotation
import TelemetrySpool.Spool.Store
import TelemetrySpool.Task
import TelemetrySpool.Telemetry.AnyValue
import TelemetrySpool.Telemetry.Logs
import TelemetrySpool.Telemetry.Metrics
import TelemetrySpool.Telemetry.Request
import TelemetrySpool.Telemetry.Resource
import TelemetrySpool.Telemetry.Traces
import TelemetrySpool.Text.Base64
import TelemetrySpool.Text.Digits
import TelemetrySpool.Text.Hex
import TelemetrySpool.Text.Invisible
import TelemetrySpool.Text.Legible
import TelemetrySpool.Text.Quoted
import TelemetrySpool.Text.Split
import TelemetrySpool.Time.Date
import TelemetrySpool.Time.Instant
import TelemetrySpool.Wire.Basic
import TelemetrySpool.Yaml.Cursor
import TelemetrySpool.Yaml.Dialect
import TelemetrySpool.Yaml.Folding
import TelemetrySpool.Yaml.Layout
import TelemetrySpool.Yaml.Node
import TelemetrySpool.Yaml.Scalar
import TelemetrySpool.Yaml.Token

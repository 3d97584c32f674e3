import MeshTelemetry.Config.Toml
import MeshTelemetry.Main
import MeshTelemetry.Source.Codec
import MeshTelemetry.Proofs.Fanout.Canonical
import MeshTelemetry.Proofs.Fanout.Offering
import MeshTelemetry.Proofs.Regex.Matching
import MeshTelemetry.Proofs.Regex.Reading
import MeshTelemetry.Proofs.Regex.Token
import MeshTelemetry.Proofs.Regex.Bracket
import MeshTelemetry.Proofs.Regex.Step
import MeshTelemetry.Proofs.Regex.Wrapping
import MeshTelemetry.Proofs.Regex.Ordered
import MeshTelemetry.Proofs.Regex.FullMatch
import MeshTelemetry.Proofs.Naming
import MeshTelemetry.Proofs.Naming.Counting
import MeshTelemetry.Proofs.Naming.Adding
import MeshTelemetry.Proofs.Naming.Scan
import MeshTelemetry.Proofs.Receiver.Opening
import MeshTelemetry.Proofs.Replay.Written
import MeshTelemetry.Proofs.Receiver.Deliveries
import MeshTelemetry.Dispatcher.Thread
import MeshTelemetry.Proofs.Dispatcher.Alone
import MeshTelemetry.Proofs.Dispatcher.Threads
import MeshTelemetry.Proofs.Receiver.Agreement
import MeshTelemetry.Proofs.Receiver.Outputs
import MeshTelemetry.Proofs.Replay.Agreement
import MeshTelemetry.Proofs.Replay.Alike
import MeshTelemetry.Proofs.Replay.Limit
import MeshTelemetry.Proofs.Document.Record
import MeshTelemetry.Proofs.Source.Codec
import MeshTelemetry.Proofs.Source.Lines
import MeshTelemetry.Proofs.Receiver.Journal
import MeshTelemetry.Proofs.Receiver.Shared
import MeshTelemetry.Proofs.Replay.Keeping
import MeshTelemetry.Proofs.Replay.Single
import MeshTelemetry.Proofs.Replay.Journal
import MeshTelemetry.Proofs.TimeBucket
import MeshTelemetry.Proofs.Meters
import MeshTelemetry.Proofs.Receiver.Counts
import MeshTelemetry.Proofs.Replay.Tracking
import MeshTelemetry.Proofs.Dispatcher.Counting
import MeshTelemetry.Proofs.Replay.Accounts
import MeshTelemetry.Proofs.Receiver.Jammed
import MeshTelemetry.Proofs.Replay.Metered
import MeshTelemetry.Proofs.Replay.Steps
import MeshTelemetry.Proofs.Replay.Input
import MeshTelemetry.Proofs.Replay.Inserted
import MeshTelemetry.Proofs.Receiver.Nesting
import MeshTelemetry.Proofs.Config.Building
import MeshTelemetry.Proofs.Config.Codec
import MeshTelemetry.Proofs.Config.Json
import MeshTelemetry.Proofs.Toml.Scanning
import MeshTelemetry.Proofs.Toml.Reading
import MeshTelemetry.Proofs.Config.Toml
import MeshTelemetry.Proofs.Receiver.Appending
import MeshTelemetry.Proofs.Store.Extension
import MeshTelemetry.Proofs.Replay.Extension
import MeshTelemetry.Dispatcher.Invocation
import MeshTelemetry.Proofs.Dispatcher.Measuring
import MeshTelemetry.Proofs.Dispatcher.Stopping
import MeshTelemetry.Receiver.Request
import MeshTelemetry.Receiver.Medium
import MeshTelemetry.Proofs.Receiver.Unbuffered
import MeshTelemetry.Proofs.Receiver.Fragments
import MeshTelemetry.Proofs.TimeBucket.Spelling
import MeshTelemetry.Proofs.Config.Violations
import MeshTelemetry.Proofs.Json.Grammar
import MeshTelemetry.Proofs.Json.Builder
import MeshTelemetry.Proofs.Json.Completeness
import MeshTelemetry.Proofs.Document.Decoder
import MeshTelemetry.Proofs.Document.Members
import MeshTelemetry.Proofs.Json.Values
import MeshTelemetry.Proofs.Metric.Codec
import MeshTelemetry.Proofs.Metric.Members
import MeshTelemetry.Proofs.Text.Base64
import MeshTelemetry.Proofs.ServiceId
import MeshTelemetry.Proofs.Stats.Moments
import MeshTelemetry.Proofs.Receiver.Faults
import MeshTelemetry.Proofs.Replay.Framing
import MeshTelemetry.Proofs.Json.Quoted
import MeshTelemetry.Proofs.Json.Printable
import MeshTelemetry.Proofs.Json.Spelling
import MeshTelemetry.Proofs.Command.Validate

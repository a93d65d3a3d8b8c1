import RecordSink.Bytes
import RecordSink.Checksum
import RecordSink.Config.Document
import RecordSink.Credential.MetadataServer
import RecordSink.Double
import RecordSink.Duration
import RecordSink.Emulator
import RecordSink.Failure
import RecordSink.Http
import RecordSink.Json.Record
import RecordSink.Main
import RecordSink.Numeral
import RecordSink.ObjectName
import RecordSink.Program
import RecordSink.Proofs.Client.Refinement
import RecordSink.Proofs.Client.Routes
import RecordSink.Proofs.Credential.Answers
import RecordSink.Proofs.Credential.Caching
import RecordSink.Proofs.Emulator.Atomicity
import RecordSink.Proofs.Emulator.Generations
import RecordSink.Proofs.Emulator.Quiet
import RecordSink.Proofs.Emulator.Requests
import RecordSink.Proofs.Intake.Copies
import RecordSink.Proofs.Json.Refusals
import RecordSink.Proofs.Json.RoundTrip
import RecordSink.Proofs.Ordeal.Attempts
import RecordSink.Proofs.Ordeal.Calls
import RecordSink.Proofs.Ordeal.Calm
import RecordSink.Proofs.Ordeal.Effects
import RecordSink.Proofs.Ordeal.Endurance
import RecordSink.Proofs.Ordeal.Errands
import RecordSink.Proofs.Ordeal.Faultless
import RecordSink.Proofs.Ordeal.Once
import RecordSink.Proofs.Ordeal.Replacement
import RecordSink.Proofs.Ordeal.Shelves
import RecordSink.Proofs.Ordeal.Sites
import RecordSink.Proofs.Ordeal.Watch
import RecordSink.Proofs.Ordeal.World
import RecordSink.Proofs.Retry.Timeline
import RecordSink.Proofs.Simulation.Accounting
import RecordSink.Proofs.Simulation.Names
import RecordSink.Proofs.Simulation.Operations
import RecordSink.Proofs.Simulation.Shadows
import RecordSink.Proofs.Simulation.Silence
import RecordSink.Proofs.Simulation.Tallies
import RecordSink.Proofs.Simulation.Trials
import RecordSink.Proofs.Sink.Acceptance
import RecordSink.Proofs.Sink.Accounts
import RecordSink.Proofs.Sink.Authorization
import RecordSink.Proofs.Sink.Connected
import RecordSink.Proofs.Sink.Independence
import RecordSink.Proofs.Sink.Room
import RecordSink.Proofs.Sink.Transcripts
import RecordSink.Proofs.SinkFile.Cleanup
import RecordSink.Proofs.SinkFile.Counters
import RecordSink.Proofs.SinkFile.Created
import RecordSink.Proofs.SinkFile.Deletions
import RecordSink.Proofs.SinkFile.Encoding
import RecordSink.Proofs.SinkFile.Footprints
import RecordSink.Proofs.SinkFile.Frames
import RecordSink.Proofs.SinkFile.Hosting
import RecordSink.Proofs.SinkFile.Intrusion
import RecordSink.Proofs.SinkFile.Ledger
import RecordSink.Proofs.SinkFile.Lifecycle
import RecordSink.Proofs.SinkFile.Limits
import RecordSink.Proofs.SinkFile.Operations
import RecordSink.Proofs.SinkFile.Outcome
import RecordSink.Proofs.SinkFile.Outlines
import RecordSink.Proofs.SinkFile.Progress
import RecordSink.Proofs.SinkFile.Reliable
import RecordSink.Proofs.SinkFile.Runs
import RecordSink.Proofs.SinkFile.SideBySide
import RecordSink.Proofs.SinkFile.States
import RecordSink.Proofs.SinkFile.Transparency
import RecordSink.Proofs.SinkFile.Unharmed
import RecordSink.Proofs.Stream.Blocks
import RecordSink.Proofs.Stream.Bounds
import RecordSink.Proofs.Stream.Conservation
import RecordSink.Proofs.Stream.Corruption
import RecordSink.Proofs.Stream.Layout
import RecordSink.Proofs.Stream.Parts
import RecordSink.Proofs.Stream.Redirection
import RecordSink.Proofs.Stream.Resumption
import RecordSink.Proofs.Stream.Truncation
import RecordSink.Proofs.Stream.Writing
import RecordSink.Proofs.Stream.Written
import RecordSink.Proofs.Url.Appending
import RecordSink.Random
import RecordSink.RecordBuffer
import RecordSink.Rehearsal.Session
import RecordSink.RemoteStore
import RecordSink.Simulation
import RecordSink.Sink
import RecordSink.SinkFile.Outline
import RecordSink.Stream.Encoder
import RecordSink.Stream.Reader
import RecordSink.Text.Escaped
import RecordSink.Text.Hex
import RecordSink.Toml.Reader
import RecordSink.Url.Punycode
import RecordSink.Url.Reader

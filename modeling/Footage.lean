import Footage.Capture.Engine
import Footage.Capture.Flags
import Footage.Capture.Uri
import Footage.Clip.Persisted
import Footage.Clip.Segment
import Footage.CommandLine.Arguments
import Footage.CommandLine.Failure
import Footage.CommandLine.Reports
import Footage.CommandLine.Tool
import Footage.Config.Encoder
import Footage.Config.Load
import Footage.Config.Overrides
import Footage.Config.Records
import Footage.Config.Render
import Footage.Config.Types
import Footage.Document.Entries
import Footage.Document.Moment
import Footage.Document.Reading
import Footage.Document.Value
import Footage.Files.Content
import Footage.Files.System
import Footage.Files.Tree
import Footage.Index.Address
import Footage.Index.Database
import Footage.Index.Error
import Footage.Index.Memory
import Footage.Json.Print
import Footage.Json.Read
import Footage.Main
import Footage.Number.Decimal
import Footage.Number.Double
import Footage.Number.Layout
import Footage.Number.Scaled
import Footage.Number.Shortest
import Footage.Place.Environment
import Footage.Place.Path
import Footage.Playback.CursorPair
import Footage.Playback.Decoder
import Footage.Playback.Options
import Footage.Playback.Probe
import Footage.Playback.Reader
import Footage.Session.Run
import Footage.Session.State
import Footage.Storage.Job
import Footage.Storage.Mover
import Footage.Storage.Relocation
import Footage.Storage.Worker
import Footage.Telemetry.Directive
import Footage.Telemetry.Duration
import Footage.Telemetry.FieldMatch
import Footage.Telemetry.LogFilter
import Footage.Telemetry.Timing
import Footage.Text.Bytes
import Footage.Text.CaseTable
import Footage.Text.Cutting
import Footage.Text.Lowercase
import Footage.Text.PrintTable
import Footage.Text.Quoted
import Footage.Text.WordTable
import Footage.Toml.Document
import Footage.Toml.Draft
import Footage.Toml.Lexical
import Footage.Toml.Moment
import Footage.Toml.Number
import Footage.Toml.Render
import Footage.Toml.Reserved
import Footage.Toml.Text
import Footage.Toml.Value
import Footage.Proofs.Capture.Addresses
import Footage.Proofs.Capture.Credentials
import Footage.Proofs.Clip.Predecessors
import Footage.Proofs.Config.Adjusting
import Footage.Proofs.Config.Blame
import Footage.Proofs.Config.Fields
import Footage.Proofs.Config.Lossless
import Footage.Proofs.Config.Overlaying
import Footage.Proofs.Config.Overriding
import Footage.Proofs.Config.Records
import Footage.Proofs.Config.Refusals
import Footage.Proofs.Config.Reloading
import Footage.Proofs.Config.Sections
import Footage.Proofs.Document.Entries
import Footage.Proofs.Document.Fields
import Footage.Proofs.Document.Merging
import Footage.Proofs.Document.Origins
import Footage.Proofs.Document.Reading
import Footage.Proofs.Document.Refusals
import Footage.Proofs.Document.Sorted
import Footage.Proofs.Files.Growth
import Footage.Proofs.Files.Safekeeping
import Footage.Proofs.Index.Log
import Footage.Proofs.Index.Recorded
import Footage.Proofs.Index.Reopening
import Footage.Proofs.Index.Table
import Footage.Proofs.Json.Carrying
import Footage.Proofs.Json.Documents
import Footage.Proofs.Json.Persistence
import Footage.Proofs.Number.Rounding
import Footage.Proofs.Place.Expansion
import Footage.Proofs.Place.Parts
import Footage.Proofs.Playback.Autonomy
import Footage.Proofs.Playback.Bearings
import Footage.Proofs.Playback.Course
import Footage.Proofs.Playback.Failures
import Footage.Proofs.Playback.Faithful
import Footage.Proofs.Playback.Forecast
import Footage.Proofs.Playback.Handles
import Footage.Proofs.Playback.Independence
import Footage.Proofs.Playback.Interchange
import Footage.Proofs.Playback.Itinerary
import Footage.Proofs.Playback.Knowledge
import Footage.Proofs.Playback.Lifespan
import Footage.Proofs.Playback.Outset
import Footage.Proofs.Playback.Plans
import Footage.Proofs.Playback.Prepared
import Footage.Proofs.Playback.Release
import Footage.Proofs.Playback.Reseeks
import Footage.Proofs.Playback.RoundTrip
import Footage.Proofs.Playback.Settings
import Footage.Proofs.Playback.Standing
import Footage.Proofs.Playback.Stepping
import Footage.Proofs.Playback.Taking
import Footage.Proofs.Playback.Timeline
import Footage.Proofs.Playback.Turns
import Footage.Proofs.Playback.Undisturbed
import Footage.Proofs.Playback.Watching
import Footage.Proofs.Session.Agreement
import Footage.Proofs.Session.Behaviour
import Footage.Proofs.Session.Chronicle
import Footage.Proofs.Session.Conduct
import Footage.Proofs.Session.Episode
import Footage.Proofs.Session.Hearing
import Footage.Proofs.Session.Named
import Footage.Proofs.Session.Projection
import Footage.Proofs.Session.Reels
import Footage.Proofs.Session.Requests
import Footage.Proofs.Session.Rotation
import Footage.Proofs.Session.Runs
import Footage.Proofs.Session.Serving
import Footage.Proofs.Session.Shelved
import Footage.Proofs.Session.Spans
import Footage.Proofs.Session.Storing
import Footage.Proofs.Storage.Attempts
import Footage.Proofs.Storage.Deeds
import Footage.Proofs.Storage.Keeping
import Footage.Proofs.Storage.MoverAccounts
import Footage.Proofs.Storage.MoverCourse
import Footage.Proofs.Storage.Projection
import Footage.Proofs.Storage.Reports
import Footage.Proofs.Storage.Shelving
import Footage.Proofs.Storage.Targets
import Footage.Proofs.Storage.Within
import Footage.Proofs.Storage.WorkerSteps
import Footage.Proofs.Telemetry.Precedence
import Footage.Proofs.Telemetry.Statistics
import Footage.Proofs.Text.ByteOrder
import Footage.Proofs.Text.Lowering
import Footage.Proofs.Toml.Closure
import Footage.Proofs.Toml.Documents
import Footage.Proofs.Toml.Drafts
import Footage.Proofs.Toml.Lines
import Footage.Proofs.Toml.Quoting
import Footage.Proofs.Toml.Scalars

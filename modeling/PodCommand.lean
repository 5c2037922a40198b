import PodCommand.Auth
import PodCommand.CommandLine
import PodCommand.CommandLine.Run
import PodCommand.Connection
import PodCommand.Connection.Client
import PodCommand.Credentials
import PodCommand.Credentials.Sources
import PodCommand.Decimal
import PodCommand.Execution
import PodCommand.ExitStatus
import PodCommand.Files
import PodCommand.Files.Path
import PodCommand.Host
import PodCommand.Json.Event
import PodCommand.Json.Number
import PodCommand.Json.Printing
import PodCommand.Json.Reading
import PodCommand.Kubeconfig
import PodCommand.Kubeconfig.Reading
import PodCommand.Kubeconfig.Selection
import PodCommand.Log
import PodCommand.Main
import PodCommand.Net.Address
import PodCommand.Net.Port
import PodCommand.Pem
import PodCommand.Proofs.CommandLine.Calls
import PodCommand.Proofs.CommandLine.Layers
import PodCommand.Proofs.CommandLine.Printing
import PodCommand.Proofs.CommandLine.Timeout
import PodCommand.Proofs.Connection.Client
import PodCommand.Proofs.Execution.Course
import PodCommand.Proofs.Execution.Demultiplexing
import PodCommand.Proofs.ExitStatus
import PodCommand.Proofs.Files
import PodCommand.Proofs.Json.Grammar
import PodCommand.Proofs.Json.Printing
import PodCommand.Proofs.Json.Reading
import PodCommand.Proofs.Json.Scanning
import PodCommand.Proofs.Json.Tokens
import PodCommand.Proofs.Kubeconfig
import PodCommand.Proofs.Request.Acceptance
import PodCommand.Proofs.Request.Assembly
import PodCommand.Proofs.Request.Message
import PodCommand.Proofs.Request.Url
import PodCommand.Proofs.Requirement
import PodCommand.Proofs.Session.Alone
import PodCommand.Proofs.Session.Calm
import PodCommand.Proofs.Session.Cancellation
import PodCommand.Proofs.Session.Capture
import PodCommand.Proofs.Session.Clearance
import PodCommand.Proofs.Session.Clock
import PodCommand.Proofs.Session.Conveyance
import PodCommand.Proofs.Session.Copy
import PodCommand.Proofs.Session.Deadline
import PodCommand.Proofs.Session.Feeding
import PodCommand.Proofs.Session.Forwarding
import PodCommand.Proofs.Session.History
import PodCommand.Proofs.Session.Independence
import PodCommand.Proofs.Session.InputFailure
import PodCommand.Proofs.Session.Interruption
import PodCommand.Proofs.Session.Lifecycle
import PodCommand.Proofs.Session.OneDeadline
import PodCommand.Proofs.Session.Output
import PodCommand.Proofs.Session.Pace
import PodCommand.Proofs.Session.Provenance
import PodCommand.Proofs.Session.Raising
import PodCommand.Proofs.Session.Readiness
import PodCommand.Proofs.Session.Reading
import PodCommand.Proofs.Session.Release
import PodCommand.Proofs.Session.Run
import PodCommand.Proofs.Session.Schedule
import PodCommand.Proofs.Session.Script
import PodCommand.Proofs.Session.Selecting
import PodCommand.Proofs.Session.Settling
import PodCommand.Proofs.Session.Soundness
import PodCommand.Proofs.Session.Source
import PodCommand.Proofs.Session.Streams
import PodCommand.Proofs.Session.Tracking
import PodCommand.Proofs.Session.Transcript
import PodCommand.Proofs.Settings.Fields
import PodCommand.Proofs.Settings.Layout
import PodCommand.Proofs.Settings.Storage
import PodCommand.Proofs.Settings.Written
import PodCommand.Proofs.Target.Display
import PodCommand.Proofs.Target.Grammar
import PodCommand.Proofs.Target.Label
import PodCommand.Proofs.Target.Name
import PodCommand.Proofs.Text.FormEncoding
import PodCommand.Proofs.Text.Lossy
import PodCommand.Proofs.Text.Numeral
import PodCommand.Proofs.Text.Pieces
import PodCommand.Proofs.Text.Quoted
import PodCommand.Proofs.Text.Utf8
import PodCommand.Proofs.Text.WellFormed
import PodCommand.Proofs.Time.Duration
import PodCommand.Proofs.Transport.Frames
import PodCommand.Proofs.Transport.Upgrade
import PodCommand.Proofs.Uri.Authority
import PodCommand.Proofs.Uri.Parts
import PodCommand.Request
import PodCommand.Request.Assembly
import PodCommand.Session.Call
import PodCommand.Session.Channel
import PodCommand.Session.Copy
import PodCommand.Session.Copying
import PodCommand.Session.Error
import PodCommand.Session.Event
import PodCommand.Session.Failure
import PodCommand.Session.Input
import PodCommand.Session.Output
import PodCommand.Session.Schedule
import PodCommand.Session.Script
import PodCommand.Session.State
import PodCommand.Session.Streaming
import PodCommand.Session.Tape
import PodCommand.Settings
import PodCommand.Settings.Storage
import PodCommand.Target
import PodCommand.Target.Name
import PodCommand.Text.Base64
import PodCommand.Text.Base64.Defect
import PodCommand.Text.Blank
import PodCommand.Text.Digits
import PodCommand.Text.Encoding
import PodCommand.Text.Extending
import PodCommand.Text.FormEncoding
import PodCommand.Text.Pieces
import PodCommand.Text.Quoted
import PodCommand.Text.Unprintable
import PodCommand.Text.Utf8
import PodCommand.Text.Utf8.Defect
import PodCommand.Time.Duration
import PodCommand.Time.Instant
import PodCommand.Tls.Certificate
import PodCommand.Tls.Der
import PodCommand.Tls.Identity
import PodCommand.Transport
import PodCommand.Transport.Frame
import PodCommand.Transport.Handshake
import PodCommand.Transport.Report
import PodCommand.Uri
import PodCommand.Yaml.Cursor
import PodCommand.Yaml.Node
import PodCommand.Yaml.Record
import PodCommand.Yaml.Scalar
import PodCommand.Yaml.Token
import PodCommand.Yaml.Value

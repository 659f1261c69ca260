import Funnel.Address.Basic
import Funnel.Address.Printer
import Funnel.Address.Reader
import Funnel.CommandLine.Flags
import Funnel.CommandLine.Reader
import Funnel.CommandLine.Usage
import Funnel.Config.Basic
import Funnel.Config.Check
import Funnel.Config.Document
import Funnel.Config.Load
import Funnel.Connector.Basic
import Funnel.Connector.Group
import Funnel.Connector.Run
import Funnel.Connector.Stats
import Funnel.Connector.Step
import Funnel.Director
import Funnel.Duration
import Funnel.Exchange.Basic
import Funnel.Exchange.Client
import Funnel.Exchange.Http1
import Funnel.Exchange.Http2
import Funnel.Fault.Basic
import Funnel.Fault.Errno
import Funnel.Fault.Kind
import Funnel.FileStore
import Funnel.Forward.ClientError
import Funnel.Forward.Deadline
import Funnel.Forward.Failure
import Funnel.Forward.Pipeline
import Funnel.Forward.Traffic
import Funnel.Gateway
import Funnel.Host
import Funnel.Http.Framing
import Funnel.Http.Head
import Funnel.Http.Headers
import Funnel.Http.HopByHop
import Funnel.Http.Message
import Funnel.Http.Token
import Funnel.Listener
import Funnel.Log.Directive
import Funnel.Log.Filter
import Funnel.Log.Line
import Funnel.Main
import Funnel.Metrics
import Funnel.Program
import Funnel.Proofs.Address
import Funnel.Proofs.Authority
import Funnel.Proofs.CommandLine
import Funnel.Proofs.CommandLine.Layers
import Funnel.Proofs.Config
import Funnel.Proofs.Config.Field
import Funnel.Proofs.Connector.Admission
import Funnel.Proofs.Connector.Alone
import Funnel.Proofs.Connector.Counters
import Funnel.Proofs.Connector.Course
import Funnel.Proofs.Connector.Deadline
import Funnel.Proofs.Connector.Deed
import Funnel.Proofs.Connector.Ending
import Funnel.Proofs.Connector.Group
import Funnel.Proofs.Connector.Move
import Funnel.Proofs.Connector.Numbering
import Funnel.Proofs.Connector.Parallel
import Funnel.Proofs.Connector.Phases
import Funnel.Proofs.Connector.Punctual
import Funnel.Proofs.Connector.Rest
import Funnel.Proofs.Connector.Settle
import Funnel.Proofs.Connector.Sound
import Funnel.Proofs.Connector.Tended
import Funnel.Proofs.Connector.Turn
import Funnel.Proofs.Counting
import Funnel.Proofs.Director
import Funnel.Proofs.Exchange
import Funnel.Proofs.Fault
import Funnel.Proofs.Forward.Accounting
import Funnel.Proofs.Forward.Classification
import Funnel.Proofs.Forward.Deadline
import Funnel.Proofs.Forward.Diagnostic
import Funnel.Proofs.Forward.Transparency
import Funnel.Proofs.Gateway
import Funnel.Proofs.Http.HopByHop
import Funnel.Proofs.Http.Listing
import Funnel.Proofs.Relay
import Funnel.Proofs.Server.Counted
import Funnel.Proofs.Server.Return
import Funnel.Proofs.Server.Stop
import Funnel.Proofs.StopSignal
import Funnel.Proofs.Stoppable
import Funnel.Proofs.Text.Number
import Funnel.Proofs.Toml
import Funnel.Proofs.Tracker.Counted
import Funnel.Proofs.Tracker.Drain
import Funnel.Proofs.Tracker.Handles
import Funnel.Proofs.Uri
import Funnel.Proofs.Waiting
import Funnel.Relay
import Funnel.Server
import Funnel.Session
import Funnel.StopSignal
import Funnel.Stoppable
import Funnel.Text.Number
import Funnel.Text.Quoted
import Funnel.Text.Unprintable
import Funnel.Text.Within
import Funnel.Timed
import Funnel.Toml.Blank
import Funnel.Toml.Definition
import Funnel.Toml.Document
import Funnel.Toml.Quoted
import Funnel.Toml.Scalar
import Funnel.Toml.Value
import Funnel.Tracker.Basic
import Funnel.Tracker.Drain
import Funnel.Tracker.Handles
import Funnel.Uri.Authority
import Funnel.Uri.Basic
import Funnel.Waiting
import Funnel.Wire

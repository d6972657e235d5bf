import KeyValueServer.Bindings
import KeyValueServer.Command
import KeyValueServer.Command.Execute
import KeyValueServer.CommandLine
import KeyValueServer.CommandLine.Arguments
import KeyValueServer.CommandLine.LogFilter
import KeyValueServer.CommandLine.LogFilter.Pattern
import KeyValueServer.CommandLine.LogFilter.Pattern.Atom
import KeyValueServer.CommandLine.LogFilter.Pattern.Bracket
import KeyValueServer.CommandLine.LogFilter.Pattern.Expression
import KeyValueServer.CommandLine.LogFilter.Pattern.Height
import KeyValueServer.CommandLine.LogFilter.Pattern.Options
import KeyValueServer.CommandLine.LogLine
import KeyValueServer.CommandLine.Setting
import KeyValueServer.CommandLine.Style
import KeyValueServer.Config
import KeyValueServer.Connection.Error
import KeyValueServer.Connection.Registry
import KeyValueServer.Connection.Stage
import KeyValueServer.Connection.Traffic
import KeyValueServer.Fault
import KeyValueServer.JobPool
import KeyValueServer.Lock
import KeyValueServer.Lock.Footprint
import KeyValueServer.Lock.Level
import KeyValueServer.Main
import KeyValueServer.Network.Address
import KeyValueServer.Network.Failure
import KeyValueServer.Network.Host
import KeyValueServer.Network.Socket
import KeyValueServer.Proofs.Apart
import KeyValueServer.Proofs.Bindings
import KeyValueServer.Proofs.Command.Independence
import KeyValueServer.Proofs.Command.Settlement
import KeyValueServer.Proofs.Connection.Directory
import KeyValueServer.Proofs.Connection.Registries
import KeyValueServer.Proofs.JobPool
import KeyValueServer.Proofs.JobPool.Workforce
import KeyValueServer.Proofs.Lock.Bookkeeping
import KeyValueServer.Proofs.Lock.Coverage
import KeyValueServer.Proofs.Lock.Deadlock
import KeyValueServer.Proofs.Lock.Nesting
import KeyValueServer.Proofs.Lock.Tower
import KeyValueServer.Proofs.Request.ArrayForm
import KeyValueServer.Proofs.Request.Arrival
import KeyValueServer.Proofs.Request.Crowd
import KeyValueServer.Proofs.Request.Extent
import KeyValueServer.Proofs.Request.Finality
import KeyValueServer.Proofs.Request.Framing
import KeyValueServer.Proofs.Request.Grammar
import KeyValueServer.Proofs.Request.Indexed
import KeyValueServer.Proofs.Request.Inline
import KeyValueServer.Proofs.Request.Limits
import KeyValueServer.Proofs.Request.Lines
import KeyValueServer.Proofs.Request.Locality
import KeyValueServer.Proofs.Request.RoundTrip
import KeyValueServer.Proofs.Request.Succession
import KeyValueServer.Proofs.Request.TwoForms
import KeyValueServer.Proofs.Server.Accounting
import KeyValueServer.Proofs.Server.Admission
import KeyValueServer.Proofs.Server.Aftermath
import KeyValueServer.Proofs.Server.Booking
import KeyValueServer.Proofs.Server.Closing
import KeyValueServer.Proofs.Server.Conversation
import KeyValueServer.Proofs.Server.Course
import KeyValueServer.Proofs.Server.Custody
import KeyValueServer.Proofs.Server.Delivery
import KeyValueServer.Proofs.Server.EndOfInput
import KeyValueServer.Proofs.Server.Exchange
import KeyValueServer.Proofs.Server.Fixture
import KeyValueServer.Proofs.Server.Hearing
import KeyValueServer.Proofs.Server.InputBound
import KeyValueServer.Proofs.Server.Jobs
import KeyValueServer.Proofs.Server.Labour
import KeyValueServer.Proofs.Server.Order
import KeyValueServer.Proofs.Server.Orderly
import KeyValueServer.Proofs.Server.Outcome
import KeyValueServer.Proofs.Server.Overflow
import KeyValueServer.Proofs.Server.Ownership
import KeyValueServer.Proofs.Server.Placement
import KeyValueServer.Proofs.Server.Progress
import KeyValueServer.Proofs.Server.Refusal
import KeyValueServer.Proofs.Server.Reopening
import KeyValueServer.Proofs.Server.Replies
import KeyValueServer.Proofs.Server.RequestSize
import KeyValueServer.Proofs.Server.Segmentation
import KeyValueServer.Proofs.Server.Runs
import KeyValueServer.Proofs.Server.Shutdown
import KeyValueServer.Proofs.Server.Steps
import KeyValueServer.Proofs.Server.Stranded
import KeyValueServer.Proofs.Server.Unattended
import KeyValueServer.Proofs.Server.Volume
import KeyValueServer.Proofs.Session.Conservation
import KeyValueServer.Proofs.ShutdownSignal
import KeyValueServer.Proofs.Store.Commuting
import KeyValueServer.Proofs.Store.Lookup
import KeyValueServer.Proofs.Store.OneMap
import KeyValueServer.Proofs.Store.Removal
import KeyValueServer.Proofs.Text.LineBreaks
import KeyValueServer.Proofs.Text.Literals
import KeyValueServer.Proofs.Text.Spacing
import KeyValueServer.Proofs.Text.Words
import KeyValueServer.Proofs.Value.Reading
import KeyValueServer.Request.Cursor
import KeyValueServer.Request.Decode
import KeyValueServer.Request.Error
import KeyValueServer.Server
import KeyValueServer.Server.Event
import KeyValueServer.Server.Job
import KeyValueServer.Server.Service
import KeyValueServer.Server.Start
import KeyValueServer.Session
import KeyValueServer.ShutdownSignal
import KeyValueServer.StartError
import KeyValueServer.Store
import KeyValueServer.Store.KeyHash
import KeyValueServer.Text.Alphanumeric
import KeyValueServer.Text.Blank
import KeyValueServer.Text.ControlSequence
import KeyValueServer.Text.Decimal
import KeyValueServer.Text.Hidden
import KeyValueServer.Text.Quoted
import KeyValueServer.Text.Ranges
import KeyValueServer.Text.Utf8
import KeyValueServer.Value
import KeyValueServer.Value.Display
import KeyValueServer.Value.Wire

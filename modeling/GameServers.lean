import GameServers.Address
import GameServers.Address.Parser
import GameServers.Agenda
import GameServers.Bytes
import GameServers.Client
import GameServers.Clockwork
import GameServers.CommandLine.Arguments
import GameServers.CommandLine.Run
import GameServers.Console.Calls
import GameServers.Console.Packet
import GameServers.Console.Protocol
import GameServers.Courier
import GameServers.Courier.Config
import GameServers.Cursor
import GameServers.Decimal.Binary32
import GameServers.Decimal.Rounding
import GameServers.Desk
import GameServers.Desk.Clock
import GameServers.Directory.Calls
import GameServers.Directory.Filter
import GameServers.Directory.Listing
import GameServers.Directory.Page
import GameServers.Directory.Protocol
import GameServers.Directory.Region
import GameServers.Duration
import GameServers.Event
import GameServers.Exchange
import GameServers.Failure
import GameServers.Frame
import GameServers.Inquiry.Calls
import GameServers.Inquiry.Layout
import GameServers.Inquiry.Protocol
import GameServers.Inquiry.Server
import GameServers.Main
import GameServers.Network
import GameServers.Plain
import GameServers.Proofs.Address.Text
import GameServers.Proofs.Client.Asking
import GameServers.Proofs.Client.Run
import GameServers.Proofs.Courier.Aftermath
import GameServers.Proofs.Courier.Answers
import GameServers.Proofs.Courier.Closing
import GameServers.Proofs.Courier.Matching
import GameServers.Proofs.Courier.OneAtATime
import GameServers.Proofs.Courier.Order
import GameServers.Proofs.Courier.Placement
import GameServers.Proofs.Courier.Preservation
import GameServers.Proofs.Courier.Reports
import GameServers.Proofs.Courier.Responses
import GameServers.Proofs.Courier.Routing
import GameServers.Proofs.Courier.Run
import GameServers.Proofs.Courier.Shutdown
import GameServers.Proofs.Courier.Soundness
import GameServers.Proofs.Courier.Step
import GameServers.Proofs.Courier.Still
import GameServers.Proofs.Courier.Writing
import GameServers.Proofs.Desk
import GameServers.Proofs.Desk.Order
import GameServers.Proofs.Desk.Schedule
import GameServers.Proofs.Desk.Shift
import GameServers.Proofs.Desk.Sleep
import GameServers.Proofs.Desk.Timers
import GameServers.Proofs.Inquiry.Calls
import GameServers.Proofs.Registry
import GameServers.Proofs.Rehearsal.Closing
import GameServers.Proofs.Rehearsal.Run
import GameServers.Proofs.SessionId
import GameServers.Proofs.Text.Digits
import GameServers.Proofs.Ticket
import GameServers.Proofs.Transport.Deliveries
import GameServers.Protocol
import GameServers.Registry
import GameServers.Rehearsal
import GameServers.Reserve
import GameServers.SessionId
import GameServers.Stage
import GameServers.Switchboard
import GameServers.Text.Quoted
import GameServers.Text.Record
import GameServers.Text.Unprintable
import GameServers.Text.Utf8
import GameServers.Ticket
import GameServers.Transport
import GameServers.Transport.Run
import GameServers.Proofs.Client.Arrivals
import GameServers.Proofs.Client.Course
import GameServers.Proofs.Directory.Calls
import GameServers.Proofs.Directory.Lateness
import GameServers.Proofs.Courier.Progress
import GameServers.Proofs.Client.Alone
import GameServers.Proofs.Directory.Losses
import GameServers.Proofs.Directory.Exact
import GameServers.Proofs.Directory.Circles
import GameServers.Proofs.Client.Rounds
import GameServers.Proofs.Client.Requests
import GameServers.Proofs.Console.Commands
import GameServers.Proofs.Bytes
import GameServers.Proofs.Text.Utf8
import GameServers.Proofs.Cursor
import GameServers.Proofs.Console.Packet
import GameServers.Proofs.Inquiry.Layout
import GameServers.Proofs.Transport.Reading
import GameServers.Proofs.Client.Records
import GameServers.Proofs.Console.Ids
import GameServers.Proofs.Console.Replies
import GameServers.Proofs.Client.Blame
import GameServers.Proofs.Console.Rejections
import GameServers.Proofs.SessionId.Exact
import GameServers.Proofs.Frame
import GameServers.Proofs.Transport.Stream
import GameServers.Proofs.Courier.Retries
import GameServers.Proofs.Transport.Interleaving
import GameServers.Proofs.Courier.Refusals
import GameServers.Proofs.Courier.Lifecycle
import GameServers.Proofs.Exchange
import GameServers.Proofs.Rehearsal.Settling
import GameServers.Proofs.Desk.Commuting
import GameServers.Proofs.Inquiry.Truncation
import GameServers.Proofs.Courier.Registration
import GameServers.Proofs.Console.Range
import GameServers.Proofs.Address.Reading
import GameServers.Proofs.Directory.Datagrams
import GameServers.Proofs.Directory.Filter
import GameServers.Proofs.Console.Gate

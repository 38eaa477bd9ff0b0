import ReliableTransfer.Bytes
import ReliableTransfer.Checksum
import ReliableTransfer.Client
import ReliableTransfer.CommandLine.Basic
import ReliableTransfer.CommandLine.Client
import ReliableTransfer.CommandLine.Server
import ReliableTransfer.Datagram
import ReliableTransfer.Decimal
import ReliableTransfer.Decimal.Fixed
import ReliableTransfer.Endpoint
import ReliableTransfer.Endpoint.Calls
import ReliableTransfer.Host.Basic
import ReliableTransfer.Host.Fault
import ReliableTransfer.Host.Files
import ReliableTransfer.Ipv4.Address
import ReliableTransfer.Ipv4.Header
import ReliableTransfer.Main
import ReliableTransfer.Notice
import ReliableTransfer.Outcome
import ReliableTransfer.Packet.Basic
import ReliableTransfer.Packet.Codec
import ReliableTransfer.Report
import ReliableTransfer.Report.Save
import ReliableTransfer.Request
import ReliableTransfer.Schedule
import ReliableTransfer.Server.Basic
import ReliableTransfer.Server.Feed
import ReliableTransfer.Server.Run
import ReliableTransfer.Server.Tasks
import ReliableTransfer.Settings
import ReliableTransfer.Text
import ReliableTransfer.Udp.Header
import ReliableTransfer.Window.Receiver
import ReliableTransfer.Window.Sender
import ReliableTransfer.Window.Session
import ReliableTransfer.Window.Timer
import ReliableTransfer.Proofs.Window.Carries
import ReliableTransfer.Proofs.Window.History
import ReliableTransfer.Proofs.Window.Invariant
import ReliableTransfer.Proofs.Window.Retransmission
import ReliableTransfer.Proofs.Window.Delivery
import ReliableTransfer.Proofs.Window.Exchange
import ReliableTransfer.Proofs.Client.Hearing
import ReliableTransfer.Proofs.Client.Output
import ReliableTransfer.Proofs.Integrity
import ReliableTransfer.Proofs.Window.Sessions
import ReliableTransfer.Proofs.Window.Turns
import ReliableTransfer.Proofs.Window.Wakeups
import ReliableTransfer.Proofs.Window.Course
import ReliableTransfer.Proofs.Window.Settling
import ReliableTransfer.Proofs.Window.Answers
import ReliableTransfer.Proofs.Window.Progress
import ReliableTransfer.Proofs.Carrying
import ReliableTransfer.Proofs.Server.Account
import ReliableTransfer.Proofs.Window.Firsts
import ReliableTransfer.Proofs.Server.Service
import ReliableTransfer.Proofs.Window.Handing
import ReliableTransfer.Proofs.Client.Refinement
import ReliableTransfer.Proofs.Client.Overflow
import ReliableTransfer.Proofs.Window.Loop
import ReliableTransfer.Proofs.Window.Completion
import ReliableTransfer.Proofs.Dotted
import ReliableTransfer.Proofs.Transparency
import ReliableTransfer.Proofs.Window.Wraparound
import ReliableTransfer.Proofs.Server.Frames
import ReliableTransfer.Proofs.Server.Standing
import ReliableTransfer.Proofs.Server.Turns
import ReliableTransfer.Proofs.Server.Settling
import ReliableTransfer.Proofs.Server.Ending
import ReliableTransfer.Proofs.Drift
import ReliableTransfer.Proofs.Server.Gist
import ReliableTransfer.Proofs.Server.Shadow
import ReliableTransfer.Proofs.Server.Bystanders
import ReliableTransfer.Proofs.Window.InTurn
import ReliableTransfer.Proofs.Client.Patience
import ReliableTransfer.Proofs.Server.Verdict
import ReliableTransfer.Proofs.Window.Timetable
import ReliableTransfer.Proofs.Window.Pulse
import ReliableTransfer.Proofs.Window.Tracking
import ReliableTransfer.Proofs.Window.Punctual
import ReliableTransfer.Proofs.Window.Precedence
import ReliableTransfer.Proofs.Window.Cumulative
import ReliableTransfer.Proofs.Packet.Encoding
import ReliableTransfer.Proofs.Packet.Damage
import ReliableTransfer.Proofs.Checksum.Folding
import ReliableTransfer.Proofs.Packet.Decoding
import ReliableTransfer.Proofs.Datagram.Bounds
import ReliableTransfer.Proofs.Datagram.RoundTrip
import ReliableTransfer.Proofs.Confinement
import ReliableTransfer.Proofs.Client.Dialogue
import ReliableTransfer.Proofs.Server.Counting
import ReliableTransfer.Proofs.Counters
import ReliableTransfer.Proofs.Window.Interleaving
import ReliableTransfer.Proofs.Window.Refusals
import ReliableTransfer.Proofs.Numerals
import ReliableTransfer.Proofs.CommandLine.Arguments
import ReliableTransfer.Proofs.Server.Packing
import ReliableTransfer.Proofs.Ownership

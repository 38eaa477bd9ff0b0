import ReliableTransfer.Endpoint
import ReliableTransfer.Outcome
import ReliableTransfer.Request
import ReliableTransfer.Server.Feed
import ReliableTransfer.Window.Timer

/-!
# The server: what it is told and where it stands

A run of the server serves one file.  It has up to three tasks: the transfer, which waits for a
request, sends the file and waits for the last acknowledgement; the sender's timer; and the
listener, which reads acknowledgements while the transfer is going on.

* `ServerOptions` — what the server is told.
* `Stage`, `Listener` — where the transfer and the listener stand.
* `Server` — the whole.
* `Server.link` — how the sender's packets get out.
-/

namespace ReliableTransfer

/-- What the server is told. -/
structure ServerOptions where
  /-- The local address. -/
  address : Bytes := []
  /-- The directory the files are in. -/
  directory : Bytes := text "./test_files"
  /-- Where to save the report, besides printing it. -/
  reportPath : Option Bytes := none
  /-- Whether to write about every packet. -/
  verbose : Bool := false
  /-- The settings of the transfer. -/
  settings : Settings := {}
deriving DecidableEq

/-- Where the transfer stands. -/
inductive Stage
  /-- It has not run yet. -/
  | starting
  /-- It reads, up to a time, for a request. -/
  | awaitingRequest (deadline : Option Int)
  /-- It waits for room to send the first of these pieces of the file, which it has read. -/
  | sendingData (rest : Feed) (notified : Bool)
  /-- It waits for room to send the end of the file. -/
  | sendingEnd (notified : Bool)
  /-- It waits for the last acknowledgement, up to a time. -/
  | awaitingAcks (deadline : Int) (notified : Bool)
  /-- It waits for the timer to end. -/
  | joiningTimer
  /-- It waits for the listener to end. -/
  | joiningListener
  /-- The run is over. -/
  | over (conclusion : Conclusion)
deriving DecidableEq

/-- Wakes a transfer that waits for progress. -/
def Stage.notify : Stage → Stage
  | sendingData rest _ => sendingData rest true
  | sendingEnd _ => sendingEnd true
  | awaitingAcks deadline _ => awaitingAcks deadline true
  | stage => stage

/-- Where the listener stands. -/
inductive Listener
  /-- It has not run yet. -/
  | starting
  /-- It reads, up to a time. -/
  | reading (deadline : Option Int)
  /-- It has ended, or was never there. -/
  | ended
deriving DecidableEq

/-- Whether the listener has ended. -/
def Listener.hasEnded : Listener → Bool
  | ended => true
  | _ => false

/-- A server at work. -/
structure Server where
  /-- What it was told. -/
  options : ServerOptions
  /-- The machine. -/
  host : Host
  /-- Its endpoint. -/
  endpoint : Endpoint
  /-- Where the transfer stands. -/
  stage : Stage := .starting
  /-- Who asked for the file; of no meaning before. -/
  client : Ipv4.Address := default
  /-- The path of the file whose reading fails, if it does. -/
  readFailure : Option Bytes := none
  /-- The sender. -/
  sender : Sender := {}
  /-- The sender's timer; it has not begun before there is a transfer. -/
  timer : Timer := .ended
  /-- The listener; it has not begun before there is a transfer. -/
  listener : Listener := .ended
  /-- Whether the listener is to go on. -/
  listening : Bool := false
  /-- The report, with the counters kept as the run goes. -/
  report : Report := {}

namespace Server

/-- Writes a line. -/
def note (s : Server) (n : Notice) : Server :=
  { s with host := s.host.note n }

/-- Writes a line if the server is to write about every packet. -/
def noteVerbose (s : Server) (n : Notice) : Server :=
  { s with host := s.host.noteIf s.options.verbose n }

/-- How the sender's packets get out: to the client that asked, at the client's port. -/
def link : Link Server where
  transmit p s :=
    let s := s.noteVerbose (.transmitting p)
    let (ok, host) := s.endpoint.send p s.client.dotted s.options.settings.clientPort s.host
    (ok, { s with host })
  note n s := s.note n

/-- What a read that is over brings. -/
def receive (s : Server) : Option Received × Server :=
  let (received, endpoint, host) := s.endpoint.receive s.host
  (received, { s with endpoint, host })

/-- How long a read that begins now may wait. -/
def readDeadline (s : Server) : Option Int :=
  s.host.readDeadline s.endpoint.descriptor

end Server

end ReliableTransfer

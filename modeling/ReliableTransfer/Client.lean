import ReliableTransfer.Endpoint
import ReliableTransfer.Outcome
import ReliableTransfer.Window.Receiver

/-!
# The client

The client asks the server for a file by name, and asks again until it hears something.  It
hands every packet of the server to its receiver, appends what comes out to the output file, and
sends the acknowledgements.  After the end of the file it stays for a while, so that a lost
acknowledgement can be repaired; if the server falls silent it gives up.

* `ClientOptions` — what the client is told.
* `Emission`, `Emission.writing` — what a client gives out: bytes to its output, and packets to the
  network.
* `Client` — a client at work.
* `Client.ask`, `Client.acknowledge` — what it sends.
* `Client.write`, `Client.hear` — what it makes of a packet.
* **`Client.decide`** — what it does before each read: leave, break off, or read.
* `Client.loop` — deciding and reading in turn.
* `Client.conclude`, `Client.close`, `Client.outcome` — how it ends.
* **`Client.run`** — the whole, from opening the endpoint to closing it.
-/

namespace ReliableTransfer

/-- What the client is told. -/
structure ClientOptions where
  /-- The local address. -/
  clientAddress : Bytes := []
  /-- The server's address. -/
  serverAddress : Bytes := []
  /-- The name of the file to ask for. -/
  fileName : Bytes := []
  /-- Where to put the file; under its own name if empty. -/
  outPath : Bytes := []
  /-- How long to stay after the end of the file. -/
  linger : Int := 2000
  /-- How long the server may be silent. -/
  idleTimeout : Int := 30000
  /-- Whether to write about every packet. -/
  verbose : Bool := false
  /-- The settings of the transfer. -/
  settings : Settings := {}
deriving DecidableEq, Inhabited

/-- Where the client puts the file. -/
def ClientOptions.output (o : ClientOptions) : Bytes :=
  if o.outPath.isEmpty then o.fileName else o.outPath

/-- What a client gives out. -/
inductive Emission
  /-- Bytes that are written to the output. -/
  | written (bytes : Bytes)
  /-- A packet that is sent to the server, whether or not it gets out. -/
  | sent (packet : Packet)
deriving DecidableEq

/-- The writing of some bytes, if there are any. -/
def Emission.writing (bytes : Bytes) : List Emission :=
  if bytes.isEmpty then [] else [.written bytes]

/-- A client at work. -/
structure Client where
  /-- What it was told. -/
  options : ClientOptions
  /-- The machine. -/
  host : Host
  /-- Its endpoint. -/
  endpoint : Endpoint
  /-- Where the output goes. -/
  place : Location
  /-- The bytes handed to the output so far. -/
  output : Bytes := []
  /-- What it has given out so far, in order. -/
  emitted : List Emission := []
  /-- The receiver. -/
  receiver : Receiver := {}
  /-- The report, with the counters kept as the run goes. -/
  report : Report
  /-- How often the file was asked for, as far as thirty-two bits can count. -/
  tries : Int32 := 0
  /-- When it was last asked for. -/
  lastRequest : Int
  /-- Whether the server was heard at all. -/
  answered : Bool := false
  /-- When the server was last heard. -/
  lastHeard : Int
  /-- When the end of the file arrived. -/
  endedAt : Option Int := none

namespace Client

/-- The packet that asks for a file. -/
def requestPacket (name : Bytes) : Packet :=
  ⟨0, 0, Flags.request, name⟩

/-- The packet that acknowledges everything up to `number`. -/
def ackPacket (number : UInt32) : Packet :=
  ⟨0, number, Flags.ack, []⟩

/-- Writes a line. -/
def note (c : Client) (n : Notice) : Client :=
  { c with host := c.host.note n }

/-- Writes a line if the client is to write about every packet. -/
def noteVerbose (c : Client) (n : Notice) : Client :=
  { c with host := c.host.noteIf c.options.verbose n }

/-! ## Sending -/

/-- Sends a packet to the server and counts it, whether or not it gets out. -/
def transmit (c : Client) (p : Packet) : Bool × Client :=
  let (ok, host) :=
    c.endpoint.send p c.options.serverAddress c.options.settings.serverPort c.host
  (ok, { c with
    host
    report := { c.report with packetsSent := c.report.packetsSent + 1 }
    emitted := c.emitted ++ [.sent p] })

/-- **Asking for the file.**  A name that is too long for a packet is not sent. -/
def ask (c : Client) : Bool × Client :=
  let limit := c.options.settings.maxPayload
  if c.options.fileName.length > limit then
    (false, c.note (.nameTooLong limit))
  else
    match c.transmit (requestPacket c.options.fileName) with
    | (false, c) => (false, c)
    | (true, c) => (true, { c with tries := c.tries + 1, lastRequest := c.host.now })

/-- Acknowledging; if that fails, the server will send again. -/
def acknowledge (c : Client) (number : UInt32) : Client :=
  match c.transmit (ackPacket number) with
  | (true, c) => c
  | (false, c) => c.note (.ackNotSent number)

/-! ## Receiving -/

/-- Whether a packet comes from the server. -/
def fromServer (o : ClientOptions) (r : Received) : Bool :=
  r.source.dotted == o.serverAddress && r.port == o.settings.serverPort

/-- Writes bytes to the output. -/
def write (c : Client) (bytes : Bytes) : Client :=
  { c with
    output := c.output ++ bytes
    emitted := c.emitted ++ Emission.writing bytes }

/-- **A packet of the server**: it counts as an answer whatever it is, and what the receiver
makes of it is written out and acknowledged. -/
def hear (c : Client) (p : Packet) : Client :=
  let (receiver, receipt) := c.receiver.accept p
  let c := { c with
    answered := true
    lastHeard := c.host.now
    receiver
    report := { c.report with packetsReceived := c.report.packetsReceived + 1 } }
  let c := c.write receipt.output
  let c := c.noteVerbose (.packetReceived p receipt.ack)
  let c := match receipt.ack with
    | some number => c.acknowledge number
    | none => c
  if receiver.finished && c.endedAt.isNone then
    { c.note (.endReceived receiver.bytesWritten c.options.linger) with
        endedAt := some c.host.now
        report := { c.report with endTime := reportTime c.host.now } }
  else c

/-- What a read that is over brings the client. -/
def read (c : Client) : Client :=
  let (received, endpoint, host) := c.endpoint.receive c.host
  let c := { c with endpoint, host }
  match received with
  | some r => if fromServer c.options r then c.hear r.packet else c
  | none => c

/-! ## The loop -/

/-- What the client does next. -/
inductive Decision
  /-- It leaves, and reports. -/
  | leave (c : Client)
  /-- It breaks off without a report. -/
  | breakOff (c : Client)
  /-- It reads from the network. -/
  | read (c : Client)

/-- Whether the client has stayed long enough after the end of the file. -/
def lingered (c : Client) : Bool :=
  c.endedAt.any fun time => c.host.now - time ≥ c.options.linger

/-- Whether the server has been silent for too long. -/
def silent (c : Client) : Bool :=
  c.host.now - c.lastHeard ≥ c.options.idleTimeout

/-- Whether it is time to ask again. -/
def requestOverdue (c : Client) : Bool :=
  !c.answered && c.host.now - c.lastRequest ≥ c.options.settings.timeout

/-- **What the client does before each read.** -/
def decide (c : Client) : Decision :=
  if c.lingered then .leave c
  else if c.silent then .leave (c.note (.serverSilent c.options.idleTimeout))
  else if c.requestOverdue then
    if c.tries.toInt > c.options.settings.maxRetries then
      .leave (c.note (.requestUnanswered c.tries.toInt))
    else
      match (c.note .requestRepeated).ask with
      | (true, c) => .read c
      | (false, c) => .breakOff c
  else .read c

/-- Leaving: the report is completed and printed.  The transfer is complete if the end of the file
has arrived and every byte got to the output. -/
def conclude (c : Client) : Client :=
  let report := { c.report with
    completed := c.receiver.finished && c.host.files.accepts c.place c.output
    endTime := if c.endedAt.isSome then c.report.endTime else reportTime c.host.now
    fileSize := c.receiver.bytesWritten
    duplicates := c.receiver.duplicates
    corrupted := c.endpoint.corrupted }
  { c with report, host := c.host.print report.render }

/-- Closes the output file and the endpoint. -/
def close (c : Client) : Client :=
  let host := { c.host with files := c.host.files.put c.place c.output }
  let (endpoint, host) := c.endpoint.detach host
  { c with endpoint, host }

/-- Deciding and reading in turn, up to a limit of time and at most `fuel` reads: how it ended, and
the client as it is then. -/
def loop (limit : Int) : Nat → Client → Conclusion × Client
  | 0, c => (.unfinished, c)
  | fuel + 1, c =>
    match c.decide with
    | .leave c => (.finished c.conclude.report.completed, c.conclude)
    | .breakOff c => (.finished false, c)
    | .read c =>
      match c.host.awaitRead limit c.endpoint.descriptor with
      | none => (.unfinished, c)
      | some host => loop limit fuel ({ c with host }.read)

/-- How a client comes out: once its work has ended it is closed. -/
def outcome : Conclusion × Client → Outcome
  | (.unfinished, c) => ⟨.unfinished, c.report, c.host⟩
  | (conclusion, c) => ⟨conclusion, c.report, c.close.host⟩

/-- A bound on the reads up to a limit: each takes an arrival or a millisecond at least. -/
def fuel (limit : Int) (h : Host) : Nat :=
  h.arrivals.length + limit.toNat + 2

/-! ## The whole -/

/-- A client that has opened its output and has not sent anything yet. -/
def create (o : ClientOptions) (e : Endpoint) (place : Location) (h : Host) : Client where
  options := o
  host := h
  endpoint := e
  place := place
  report := { role := text "client", fileName := o.fileName, startTime := reportTime h.now }
  lastRequest := h.now
  lastHeard := h.now

/-- The work of a client whose endpoint is open. -/
def work (o : ClientOptions) (limit : Int) (e : Endpoint) (h : Host) : Outcome :=
  match h.files.create? o.output with
  | none =>
    let (_, h) := e.detach (h.note (.outputNotOpened o.output))
    ⟨.finished false, {}, h⟩
  | some (place, files) =>
    match (create o e place { h with files }).ask with
    | (false, c) => outcome (.finished false, c)
    | (true, c) => outcome (c.loop limit (fuel limit h))

/-- **A run of the client**, watched up to a limit of time. -/
def run (o : ClientOptions) (limit : Int) (h : Host) : Outcome :=
  let e : Endpoint := { address := o.clientAddress, port := o.settings.clientPort }
  match e.attach o.settings.receiveTimeout h with
  | (false, e, h) =>
    let (_, h) := e.detach h
    ⟨.notStarted, {}, h⟩
  | (true, e, h) =>
    work o limit e
      (h.note (.clientStarted o.clientAddress o.fileName o.serverAddress o.output o.settings))

end Client

end ReliableTransfer

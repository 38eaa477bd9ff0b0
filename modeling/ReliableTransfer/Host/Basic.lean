import ReliableTransfer.Host.Files
import ReliableTransfer.Notice

/-!
# The machine a program runs on

A `Host` is everything a program can touch: a clock, raw sockets, a network that brings
datagrams and failures at fixed times, files, and its two outputs.  It also keeps what the
program did with them, in order.  Time is in milliseconds and stands still while the program
works; it moves on only when the program waits.

* `Arrival` — what the network brings, and when.
* `SendFault`, `Sending` — what can befall a datagram that is sent, and the record of sending it.
* `SocketCall` — the record of a call that opens, prepares or closes a socket.
* **`Host`** — the machine.
* `Host.socket`, `Host.setHeaderIncluded`, `Host.bind`, `Host.setReceiveTimeout`, `Host.close`,
  `Host.sendTo` — the calls that never wait.
* `Host.readDeadline`, `Host.readDue?`, `Host.awaitRead`, **`Host.read`** — reading from the
  network: how long a read waits, when it will have something, and what it then gets.
-/

namespace ReliableTransfer

/-- What the network has for a read. -/
inductive Incoming
  /-- A whole datagram. -/
  | datagram (bytes : Bytes)
  /-- A failed call. -/
  | fault (cause : Fault)
deriving DecidableEq

/-- Something the network brings. -/
structure Arrival where
  /-- From when on a read gets it. -/
  time : Int
  /-- What it is. -/
  incoming : Incoming
deriving DecidableEq

/-- What can befall a datagram that is sent. -/
inductive SendFault
  /-- The call fails. -/
  | fails (cause : Fault)
  /-- The call reports this many bytes as sent. -/
  | reports (sent : Nat)
deriving DecidableEq

/-- The record of a datagram handed to the network. -/
structure Sending where
  /-- When it was handed over. -/
  time : Int
  /-- The address it was sent to. -/
  address : Ipv4.Address
  /-- The port it was sent to. -/
  port : UInt16
  /-- The datagram. -/
  frame : Bytes
  /-- The bytes reported as sent; none if the call failed. -/
  reported : Option Nat
deriving DecidableEq

/-- The record of a call that opens, prepares or closes a socket. -/
inductive SocketCall
  /-- A socket was opened. -/
  | opened (descriptor : Nat)
  /-- The option to write IP headers by hand was set. -/
  | headerIncluded (descriptor : Nat)
  /-- The socket was bound. -/
  | bound (descriptor : Nat) (address : Ipv4.Address) (port : UInt16)
  /-- The timeout of reads was set, in seconds and microseconds. -/
  | receiveTimeout (descriptor : Nat) (seconds microseconds : Int)
  /-- The socket was closed. -/
  | closed (descriptor : Nat)
  /-- A step of opening failed. -/
  | failed (step : OpenStep)
deriving DecidableEq

/-- An open socket. -/
structure Socket where
  /-- Its descriptor. -/
  descriptor : Nat
  /-- How long a read waits; for ever without one. -/
  receiveTimeout : Option Int := none
deriving DecidableEq

/-- **The machine a program runs on**, and the record of what the program did with it. -/
structure Host where
  /-- The clock. -/
  now : Int := 0
  /-- What the network still has to bring, in the order of its times. -/
  arrivals : List Arrival := []
  /-- The step of opening that fails, if any. -/
  openFault : Option (OpenStep × Fault) := none
  /-- What befalls the datagrams that are sent, by their number. -/
  sendFaults : List (Nat × SendFault) := []
  /-- The files. -/
  files : Files := .empty
  /-- The descriptor the next socket gets. -/
  nextDescriptor : Nat := 3
  /-- The open sockets. -/
  sockets : List Socket := []
  /-- The datagrams sent so far. -/
  sent : List Sending := []
  /-- The socket calls made so far. -/
  calls : List SocketCall := []
  /-- The lines written to the error output so far. -/
  notices : List Notice := []
  /-- The bytes written to the output so far. -/
  printed : Bytes := []
deriving DecidableEq

namespace Host

/-- Writes a line to the error output. -/
def note (h : Host) (n : Notice) : Host :=
  { h with notices := h.notices ++ [n] }

/-- Writes a line to the error output if a condition holds. -/
def noteIf (h : Host) (condition : Bool) (n : Notice) : Host :=
  if condition then h.note n else h

/-- Writes to the output. -/
def print (h : Host) (bytes : Bytes) : Host :=
  { h with printed := h.printed ++ bytes }

/-- Adds a call to the record. -/
def record (h : Host) (call : SocketCall) : Host :=
  { h with calls := h.calls ++ [call] }

/-- Moves the clock on to `time`, if that lies ahead. -/
def advanceTo (h : Host) (time : Int) : Host :=
  { h with now := max h.now time }

/-- The open socket with a descriptor, if there is one. -/
def socket? (h : Host) (descriptor : Nat) : Option Socket :=
  h.sockets.find? (·.descriptor == descriptor)

/-! ## Opening and closing

Each step either fails, as the machine has it, or leaves a record.  A socket whose preparation
fails stays open. -/

/-- The fault of a step of opening, if it is the one that fails. -/
def stepFault? (h : Host) (step : OpenStep) : Option Fault :=
  match h.openFault with
  | some (s, cause) => if s = step then some cause else none
  | none => none

/-- Opens a raw socket and gives its descriptor. -/
def socket (h : Host) : Except Fault Nat × Host :=
  match h.stepFault? .socket with
  | some cause => (.error cause, h.record (.failed .socket))
  | none =>
    (.ok h.nextDescriptor,
     { h.record (.opened h.nextDescriptor) with
        nextDescriptor := h.nextDescriptor + 1
        sockets := h.sockets ++ [⟨h.nextDescriptor, none⟩] })

/-- Sets the option to write IP headers by hand. -/
def setHeaderIncluded (h : Host) (descriptor : Nat) : Except Fault Unit × Host :=
  match h.stepFault? .headerIncluded with
  | some cause => (.error cause, h.record (.failed .headerIncluded))
  | none => (.ok (), h.record (.headerIncluded descriptor))

/-- Binds a socket to a local address. -/
def bind (h : Host) (descriptor : Nat) (address : Ipv4.Address) (port : UInt16) :
    Except Fault Unit × Host :=
  match h.stepFault? .bind with
  | some cause => (.error cause, h.record (.failed .bind))
  | none => (.ok (), h.record (.bound descriptor address port))

/-- Sets the timeout of a socket's reads; zero means that they wait for ever. -/
def setReceiveTimeout (h : Host) (descriptor : Nat) (timeout : Int) : Except Fault Unit × Host :=
  let limit := if timeout = 0 then none else some timeout
  let update (s : Socket) : Socket :=
    if s.descriptor == descriptor then { s with receiveTimeout := limit } else s
  match h.stepFault? .receiveTimeout with
  | some cause => (.error cause, h.record (.failed .receiveTimeout))
  | none =>
    (.ok (),
     { h.record (.receiveTimeout descriptor (timeout.tdiv 1000) (timeout.tmod 1000 * 1000)) with
        sockets := h.sockets.map update })

/-- Closes a socket; closing what is not open does nothing. -/
def close (h : Host) (descriptor : Nat) : Host :=
  match h.socket? descriptor with
  | some _ =>
    { h.record (.closed descriptor) with
        sockets := h.sockets.filter (·.descriptor != descriptor) }
  | none => h

/-! ## Sending -/

/-- The bytes the network reports for the next datagram, or why it is refused. -/
def sendOutcome (h : Host) (frame : Bytes) : Except Fault Nat :=
  match h.sendFaults.lookup h.sent.length with
  | some (.fails cause) => .error cause
  | some (.reports sent) => .ok sent
  | none => .ok frame.length

/-- Hands a datagram to the network.  Only an open socket gets as far as the record. -/
def sendTo (h : Host) (descriptor : Option Nat) (address : Ipv4.Address) (port : UInt16)
    (frame : Bytes) : Except Fault Nat × Host :=
  match descriptor.bind h.socket? with
  | none => (.error .badDescriptor, h)
  | some _ =>
    let outcome := h.sendOutcome frame
    (outcome, { h with sent := h.sent ++ [⟨h.now, address, port, frame, outcome.toOption⟩] })

/-! ## Reading -/

/-- The most bytes a read takes; the rest of a datagram is lost. -/
def readSize : Nat := 65536

/-- How far a read that begins now may wait: up to a time, or for ever; a socket that is not
open fails at once. -/
def readDeadline (h : Host) (descriptor : Option Nat) : Option Int :=
  match descriptor.bind h.socket? with
  | none => some h.now
  | some s => s.receiveTimeout.map (h.now + ·)

/-- When a read with a deadline will have something: what the network brings next or the end of
its patience, whichever is first. -/
def readDue? (h : Host) (deadline : Option Int) : Option Int :=
  match h.arrivals.head?, deadline with
  | none, none => none
  | some a, none => some a.time
  | none, some t => some t
  | some a, some t => some (min a.time t)

/-- A program that does nothing else waits for its read: the machine at the time when the read is
over, unless that lies beyond the limit. -/
def awaitRead (h : Host) (limit : Int) (descriptor : Option Nat) : Option Host :=
  match h.readDue? (h.readDeadline descriptor) with
  | some time => if time ≤ limit then some (h.advanceTo time) else none
  | none => none

/-- **What a read gets** when it is over: the next arrival if its time has come, else nothing in
time. -/
def read (h : Host) (descriptor : Option Nat) : Except Fault Bytes × Host :=
  match descriptor.bind h.socket?, h.arrivals with
  | none, _ => (.error .badDescriptor, h)
  | some _, [] => (.error .wouldBlock, h)
  | some _, a :: rest =>
    if a.time ≤ h.now then
      match a.incoming with
      | .datagram bytes => (.ok (bytes.take readSize), { h with arrivals := rest })
      | .fault cause => (.error cause, { h with arrivals := rest })
    else (.error .wouldBlock, h)

end Host

end ReliableTransfer

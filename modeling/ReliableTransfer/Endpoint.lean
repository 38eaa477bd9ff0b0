import ReliableTransfer.Host.Basic

/-!
# Endpoints

An endpoint sends and receives packets at one local address and port.  It frames every packet by
hand and needs a raw socket for that, which brings it everything that reaches the machine; what
is not meant for its port it passes over.

* `Endpoint` — the endpoint.
* `Endpoint.attach`, `Endpoint.detach` — opening and closing its socket.
* `pack`, **`Endpoint.send`** — a packet as a datagram, and sending it.
* `Received`, `Endpoint.interpret`, **`Endpoint.receive`** — a packet with its origin, and what
  the endpoint makes of a read that is over.
-/

namespace ReliableTransfer

/-- A place packets are sent from and received at. -/
structure Endpoint where
  /-- The local address, as it was given. -/
  address : Bytes
  /-- The local port. -/
  port : UInt16
  /-- The descriptor of its socket, if it has one. -/
  descriptor : Option Nat := none
  /-- The datagrams for this port that held no intact packet. -/
  corrupted : Nat := 0
deriving DecidableEq

/-- A packet that was received, and where it came from. -/
structure Received where
  /-- The packet. -/
  packet : Packet
  /-- The address it was sent from. -/
  source : Ipv4.Address
  /-- The port it was sent from. -/
  port : UInt16
deriving DecidableEq

/-- **A packet as a datagram** for an address and a port, with the address it goes to. -/
def pack (src : Bytes) (srcPort : UInt16) (dst : Bytes) (dstPort : UInt16) (p : Packet) :
    Except PackError (Ipv4.Address × Bytes) := do
  let app ← p.encode.mapError .encode
  let datagram ← (frame src srcPort dst dstPort app).mapError .frame
  let address ← (Ipv4.address dst).mapError (.frame ∘ .ipv4)
  return (address, datagram)

namespace Endpoint

/-! ## Opening and closing -/

/-- Prepares an open socket: headers by hand, the local address, the timeout of reads.  The first
step that fails ends it. -/
def prepare (e : Endpoint) (descriptor : Nat) (timeout : Int) (h : Host) : Bool × Host :=
  match h.setHeaderIncluded descriptor with
  | (.error cause, h) => (false, h.note (.callFailed (.opening .headerIncluded) cause))
  | (.ok _, h) =>
    match Ipv4.Address.parse? e.address with
    | none => (false, h.note (.invalidLocalAddress e.address))
    | some address =>
      match h.bind descriptor address e.port with
      | (.error cause, h) => (false, h.note (.callFailed (.opening .bind) cause))
      | (.ok _, h) =>
        match h.setReceiveTimeout descriptor timeout with
        | (.error cause, h) => (false, h.note (.callFailed (.opening .receiveTimeout) cause))
        | (.ok _, h) => (true, h)

/-- Whether a failure to open a socket is one of privilege. -/
def needsPrivilege : Fault → Bool
  | .notPermitted | .accessDenied => true
  | _ => false

/-- **Opening.**  The endpoint takes the new socket as its own, whether or not it can be
prepared. -/
def attach (e : Endpoint) (timeout : Int) (h : Host) : Bool × Endpoint × Host :=
  match h.socket with
  | (.error cause, h) =>
    (false, { e with descriptor := none },
     (h.note (.callFailed (.opening .socket) cause)).noteIf (needsPrivilege cause)
       .privilegeNeeded)
  | (.ok descriptor, h) =>
    let (ok, h) := e.prepare descriptor timeout h
    (ok, { e with descriptor := some descriptor }, h)

/-- Closing. -/
def detach (e : Endpoint) (h : Host) : Endpoint × Host :=
  match e.descriptor with
  | some descriptor => ({ e with descriptor := none }, h.close descriptor)
  | none => (e, h)

/-! ## Sending -/

/-- **Sending a packet**; whether all of it was sent. -/
def send (e : Endpoint) (p : Packet) (dst : Bytes) (dstPort : UInt16) (h : Host) : Bool × Host :=
  match pack e.address e.port dst dstPort p with
  | .error cause => (false, h.note (.cannotPack p cause))
  | .ok (address, datagram) =>
    match h.sendTo e.descriptor address dstPort datagram with
    | (.error cause, h) => (false, h.note (.callFailed .sending cause))
    | (.ok sent, h) =>
      if sent = datagram.length then (true, h)
      else (false, h.note (.partialSend sent datagram.length))

/-! ## Receiving -/

/-- What a datagram holds for the endpoint.  A damaged packet is counted and written about, but
only if it is meant for the endpoint's port. -/
def interpret (e : Endpoint) (bytes : Bytes) (h : Host) : Option Received × Endpoint × Host :=
  match unframe? bytes with
  | none => (none, e, h)
  | some d =>
    if d.udp.dstPort ≠ e.port then (none, e, h)
    else
      match Packet.decode d.app with
      | .ok p => (some ⟨p, d.ip.src, d.udp.srcPort⟩, e, h)
      | .error cause =>
        (none, { e with corrupted := e.corrupted + 1 }, h.note (.corruptedPacket d.ip.src cause))

/-- **What a read that is over brings**: a packet for this endpoint, or nothing. -/
def receive (e : Endpoint) (h : Host) : Option Received × Endpoint × Host :=
  match h.read e.descriptor with
  | (.error cause, h) =>
    (none, e, h.noteIf (!cause.silentOnReceive) (.callFailed .receiving cause))
  | (.ok bytes, h) => e.interpret bytes h

end Endpoint

end ReliableTransfer

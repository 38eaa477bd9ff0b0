import ReliableTransfer.Ipv4.Header
import ReliableTransfer.Udp.Header

/-!
# Datagrams

A datagram is an IPv4 header, a UDP header and the bytes of an application.  This file puts the
two headers on and takes them off again.

* **`frame`** — the datagram that carries `app` from one address and port to another.
* `Datagram`, **`unframe?`** — the headers and the application bytes of what was read from the
  network.  Only UDP over IPv4 is accepted; the UDP length cuts off padding behind the datagram.
-/

namespace ReliableTransfer

/-- Why application bytes cannot be framed. -/
inductive FrameError
  /-- The UDP header cannot be written. -/
  | udp (cause : Udp.HeaderError)
  /-- The IPv4 header cannot be written. -/
  | ipv4 (cause : Ipv4.HeaderError)
deriving DecidableEq

/-- The wording of a framing error. -/
def FrameError.message : FrameError → Bytes
  | .udp cause => cause.message
  | .ipv4 cause => cause.message

/-- **Framing.**  The inner header is written first, so a payload too long for it is reported
before anything about the outer one. -/
def frame (src : Bytes) (srcPort : UInt16) (dst : Bytes) (dstPort : UInt16) (app : Bytes) :
    Except FrameError Bytes := do
  let udp ← (Udp.build srcPort dstPort app.length).mapError .udp
  let ip ← (Ipv4.build src dst (udp.length + app.length)).mapError .ipv4
  return ip ++ udp ++ app

/-- What was read from the network, taken apart. -/
structure Datagram where
  /-- The fixed part of the outer header. -/
  ip : Ipv4.Header
  /-- The inner header. -/
  udp : Udp.Header
  /-- Where the application bytes start in what was read. -/
  offset : Nat
  /-- The application bytes. -/
  app : Bytes
deriving DecidableEq

/-- The application bytes among those behind the UDP header: a length field that counts at least
its own header bounds them, a smaller one means nothing. -/
def boundByLength (length : UInt16) (body : Bytes) : Bytes :=
  if length.toNat ≥ Udp.headerSize then body.take (length.toNat - Udp.headerSize) else body

/-- **Unframing.**  The outer header says by its own length where the inner one starts. -/
def unframe? (data : Bytes) : Option Datagram := do
  let ip ← Ipv4.Header.parse? data
  guard (ip.version = 4 ∧ ip.protocol = Ipv4.protocolUdp)
  guard (Ipv4.headerSize ≤ ip.headerLength)
  let segment := data.drop ip.headerLength
  let udp ← Udp.Header.parse? segment
  return { ip, udp,
           offset := ip.headerLength + Udp.headerSize,
           app := boundByLength udp.length (segment.drop Udp.headerSize) }

end ReliableTransfer

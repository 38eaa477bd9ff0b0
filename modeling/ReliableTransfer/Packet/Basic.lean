import ReliableTransfer.Bytes
import ReliableTransfer.Decimal

/-!
# Packets

A packet carries two sequence numbers, a set of flags and a payload.  The flags say what it is
for; nothing forbids a packet to carry several of them, or none.

* `Packet` — the packet.
* `Flags` — its flags; `Flags.data`, `Flags.ack`, `Flags.fin` and `Flags.request` are the four
  that mean something.
* `Packet.describe` — the one-line description used in messages.
-/

namespace ReliableTransfer

/-- The flags of a packet, one bit each. -/
abbrev Flags := UInt16

namespace Flags

/-- The packet carries a piece of the file. -/
def data : Flags := 1

/-- The packet acknowledges everything up to its acknowledgement number. -/
def ack : Flags := 2

/-- The packet ends the file. -/
def fin : Flags := 4

/-- The packet asks for the file its payload names. -/
def request : Flags := 8

/-- Whether `flags` holds the bit `flag`. -/
def has (flags flag : Flags) : Bool :=
  flags &&& flag != 0

end Flags

/-- A packet of the transfer protocol. -/
structure Packet where
  /-- The packet's own number. -/
  seq : UInt32
  /-- The number it acknowledges. -/
  ack : UInt32
  /-- What the packet is for. -/
  flags : Flags
  /-- The bytes it carries. -/
  payload : Bytes
deriving DecidableEq, Inhabited

namespace Packet

/-- Whether the packet carries a piece of the file. -/
def isData (p : Packet) : Bool := p.flags.has Flags.data

/-- Whether the packet acknowledges. -/
def isAck (p : Packet) : Bool := p.flags.has Flags.ack

/-- Whether the packet ends the file. -/
def isFin (p : Packet) : Bool := p.flags.has Flags.fin

/-- Whether the packet asks for a file. -/
def isRequest (p : Packet) : Bool := p.flags.has Flags.request

/-- The length the header can state: that of the payload, in sixteen bits. -/
def payloadLength (p : Packet) : UInt16 :=
  UInt16.ofNat p.payload.length

/-! ## Description -/

/-- The names of the flags that are set, in the order of their bits. -/
def flagNames (p : Packet) : List Bytes :=
  (if p.isData then [text "DATA"] else []) ++ (if p.isAck then [text "ACK"] else []) ++
  (if p.isFin then [text "FIN"] else []) ++ (if p.isRequest then [text "REQ"] else [])

/-- The names of the flags with bars between them, or `NONE`. -/
def describeFlags (p : Packet) : Bytes :=
  match p.flagNames with
  | [] => text "NONE"
  | names => (names.intersperse (text "|")).flatten

/-- **The packet in one line**: its numbers, its flags by name and the length of its payload. -/
def describe (p : Packet) : Bytes :=
  text "seq=" ++ decimal p.seq.toNat ++ text " ack=" ++ decimal p.ack.toNat ++
  text " flags=" ++ p.describeFlags ++ text " len=" ++ decimal p.payload.length

end Packet

end ReliableTransfer

import ReliableTransfer.Packet.Basic

/-!
# The receiving side of the window

The receiver delivers data strictly in order.  A packet ahead of its turn is dropped without an
answer; one that was delivered before is acknowledged again, so that a lost acknowledgement is
repaired.

* `Receiver` — the receiver's state and counters.
* `Receipt` — what a packet brings about: an acknowledgement, and bytes for the output.
* **`Receiver.accept`** — one packet handed to the receiver.
* `Receiver.acceptAll` — a list of packets handed over in order.
-/

namespace ReliableTransfer

/-- The receiving side of one transfer. -/
structure Receiver where
  /-- The number the next packet to deliver must have. -/
  expected : UInt32 := 0
  /-- Whether the packet that ends the file has been delivered. -/
  finished : Bool := false
  /-- The packets delivered. -/
  delivered : Nat := 0
  /-- The bytes handed to the output. -/
  bytesWritten : Nat := 0
  /-- The packets that had been delivered before. -/
  duplicates : Nat := 0
  /-- The packets dropped because it was not their turn. -/
  outOfOrder : Nat := 0
deriving DecidableEq, Inhabited

/-- What one packet brings about. -/
structure Receipt where
  /-- The acknowledgement to send back, if any. -/
  ack : Option UInt32 := none
  /-- The bytes to append to the output. -/
  output : Bytes := []
deriving DecidableEq, Inhabited

namespace Receiver

/-- The bytes a packet has for the output: its payload, if it carries data. -/
def contribution (p : Packet) : Bytes :=
  if p.isData then p.payload else []

/-- **One packet handed to the receiver.**  Only data and the end of the file concern it.
Nothing follows the end of the file within a transfer. -/
def accept (r : Receiver) (p : Packet) : Receiver × Receipt :=
  if !p.isData && !p.isFin then
    (r, {})
  else if p.seq = r.expected then
    if r.finished then
      ({ r with outOfOrder := r.outOfOrder + 1 }, {})
    else
      ({ r with
          expected := r.expected + 1
          finished := p.isFin
          delivered := r.delivered + 1
          bytesWritten := r.bytesWritten + (contribution p).length },
       { ack := some r.expected, output := contribution p })
  else if p.seq < r.expected then
    ({ r with duplicates := r.duplicates + 1 }, { ack := some (r.expected - 1) })
  else
    ({ r with outOfOrder := r.outOfOrder + 1 }, {})

/-- Hands a list of packets over, one after the other; the receipts come in the same order. -/
def acceptAll (r : Receiver) : List Packet → Receiver × List Receipt
  | [] => (r, [])
  | p :: rest =>
    let (r, receipt) := r.accept p
    let (r, receipts) := r.acceptAll rest
    (r, receipt :: receipts)

/-- The state after a list of packets is that after its parts, one behind the other. -/
theorem acceptAll_append (r : Receiver) (first second : List Packet) :
    r.acceptAll (first ++ second) =
      (((r.acceptAll first).1.acceptAll second).1,
       (r.acceptAll first).2 ++ ((r.acceptAll first).1.acceptAll second).2) := by
  induction first generalizing r with
  | nil => rfl
  | cons p rest ih => simp [acceptAll, ih]

/-- There is a receipt for every packet. -/
theorem length_acceptAll (r : Receiver) (packets : List Packet) :
    (r.acceptAll packets).2.length = packets.length := by
  induction packets generalizing r with
  | nil => rfl
  | cons p rest ih => simp [acceptAll, ih]

end Receiver

end ReliableTransfer

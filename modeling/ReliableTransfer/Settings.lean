import ReliableTransfer.Bytes

/-!
# Settings of a transfer

The numbers both sides work with.  Times are in milliseconds and may be given as any integer; a
time that is not positive simply has passed already.
-/

namespace ReliableTransfer

/-- The settings shared by both sides of a transfer. -/
structure Settings where
  /-- The port the server listens on. -/
  serverPort : UInt16 := 12345
  /-- The port the client receives on. -/
  clientPort : UInt16 := 12346
  /-- The most bytes of payload in a packet. -/
  maxPayload : Nat := 1024
  /-- The most packets in flight. -/
  window : UInt32 := 4
  /-- How long a packet may stay unacknowledged before it is sent again. -/
  timeout : Int := 500
  /-- How often a packet is sent again. -/
  maxRetries : Int := 10
  /-- How often the sender's timer looks for overdue packets. -/
  poll : Int := 50
  /-- How long a read from the network waits; for ever if zero. -/
  receiveTimeout : Int := 200
  /-- How long the server waits for the last acknowledgements. -/
  completionTimeout : Int := 60000
deriving DecidableEq, Inhabited

end ReliableTransfer

import ReliableTransfer.Notice

/-!
# The sending side of the window

The sender numbers packets from zero and keeps each of them until it is acknowledged.  At most
a window's worth may be in flight.  Acknowledgements are cumulative.  A scan sends overdue
packets again, a limited number of times; after that a packet stays in flight and is only
complained about once.

Nothing that is sent changes the state by whether it gets through, so the operations are pure:
they give the new state and the list of things to do.

* `Unacked` — a packet in flight with its history.
* `Sender` — the state.
* `Sender.hasRoom`, `Sender.room`, **`Sender.send`**, **`Sender.acknowledge`**,
  **`Sender.scan`**, `Sender.stop` — the operations.
* `Action` — a thing to do; `Link` is what it takes to do it.
-/

namespace ReliableTransfer

/-- A packet that was sent and is not acknowledged yet. -/
structure Unacked where
  /-- The packet, as it is sent each time. -/
  packet : Packet
  /-- When it was last sent. -/
  lastSent : Int
  /-- How often it was sent again. -/
  retries : Nat := 0
  /-- Whether the end of its retries was reported. -/
  reported : Bool := false
deriving DecidableEq

/-- The number of a packet in flight. -/
def Unacked.seq (r : Unacked) : UInt32 := r.packet.seq

/-- The sending side of one transfer. -/
structure Sender where
  /-- The lowest number that is not acknowledged. -/
  base : UInt32 := 0
  /-- The number of the next packet. -/
  next : UInt32 := 0
  /-- The packets in flight, by ascending number. -/
  inFlight : List Unacked := []
  /-- The packets sent, resent ones apart. -/
  packetsSent : Nat := 0
  /-- How often a packet was sent again. -/
  retransmissions : Nat := 0
  /-- Whether the sender is still at work. -/
  running : Bool := true
deriving DecidableEq

/-- Why a packet is not taken for sending. -/
inductive SendError
  /-- The payload is longer than a packet's may be. -/
  | oversized (size limit : Nat)
  /-- The sender has been stopped. -/
  | stopped
deriving DecidableEq

/-- The wording of a sending error. -/
def SendError.message : SendError → Bytes
  | .oversized size limit =>
    text "payload of " ++ decimal size ++ text " bytes exceeds max_payload_size " ++ decimal limit
  | .stopped => text "send on stopped SrftWindowSender"

/-- Why a sender cannot be set up. -/
inductive SetupError
  /-- A window that holds no packet. -/
  | emptyWindow
  /-- Nothing to send packets with. -/
  | noLink
deriving DecidableEq

/-- The wording of a set-up error. -/
def SetupError.message : SetupError → Bytes
  | .emptyWindow => text "SrftWindowSender: window_size must be >= 1"
  | .noLink => text "SrftWindowSender: transmit function is empty"

/-! ## Things to do -/

/-- Something the sender wants done. -/
inductive Action
  /-- Send a packet for the first time. -/
  | transmit (packet : Packet)
  /-- Send a packet again. -/
  | retransmit (packet : Packet)
  /-- Complain that a packet has used up its retries. -/
  | giveUp (maxRetries : Int) (seq : UInt32)
deriving DecidableEq

/-- What it takes to do an action: a way to send a packet, which says whether it worked, and a way
to write a line. -/
structure Link (τ : Type) where
  /-- Sends a packet. -/
  transmit : Packet → τ → Bool × τ
  /-- Writes a line. -/
  note : Notice → τ → τ

/-- Does an action.  A packet that could not be sent is only written about: the timer will send it
again. -/
def Action.perform {τ : Type} (link : Link τ) : Action → τ → τ
  | .transmit p, t =>
    match link.transmit p t with
    | (true, t) => t
    | (false, t) => link.note (.transmitFailed p.seq) t
  | .retransmit p, t =>
    match link.transmit p t with
    | (true, t) => t
    | (false, t) => link.note (.retransmitFailed p.seq) t
  | .giveUp maxRetries seq, t => link.note (.retriesExceeded maxRetries seq) t

/-- Does actions one after the other. -/
def performAll {τ : Type} (link : Link τ) (actions : List Action) (t : τ) : τ :=
  actions.foldl (fun t action => action.perform link t) t

/-- With nothing to do nothing changes. -/
@[simp] theorem performAll_nil {τ : Type} (link : Link τ) (t : τ) : performAll link [] t = t := rfl

/-- The first thing to do is done first. -/
@[simp] theorem performAll_cons {τ : Type} (link : Link τ) (action : Action)
    (actions : List Action) (t : τ) :
    performAll link (action :: actions) t = performAll link actions (action.perform link t) := rfl

/-- Two lists of things are done one after the other. -/
theorem performAll_append {τ : Type} (link : Link τ) (first second : List Action) (t : τ) :
    performAll link (first ++ second) t = performAll link second (performAll link first t) := by
  simp [performAll]

/-- Whether an action sends a packet again. -/
def Action.isRetransmit : Action → Bool
  | .retransmit _ => true
  | _ => false

namespace Unacked

/-- What a scan does with one packet.  It is overdue when strictly more than the timeout has
passed since it was last sent. -/
def scan (settings : Settings) (now : Int) (r : Unacked) : Unacked × List Action :=
  if now - r.lastSent ≤ settings.timeout then (r, [])
  else if (r.retries : Int) ≥ settings.maxRetries then
    if r.reported then (r, [])
    else ({ r with reported := true }, [.giveUp settings.maxRetries r.seq])
  else ({ r with lastSent := now, retries := r.retries + 1 }, [.retransmit r.packet])

/-- Adds a packet to those in flight, in the place its number gives it.  A number that is already
in flight keeps the packet it has. -/
def insert (r : Unacked) : List Unacked → List Unacked
  | [] => [r]
  | head :: rest =>
    if r.seq < head.seq then r :: head :: rest
    else if r.seq = head.seq then head :: rest
    else head :: insert r rest

/-- A scan leaves a packet as it is and so its number. -/
theorem packet_scan (settings : Settings) (now : Int) (r : Unacked) :
    (r.scan settings now).1.packet = r.packet := by
  unfold scan
  split
  · rfl
  · split
    · split <;> rfl
    · rfl

/-- A scan leaves the number of a packet as it is. -/
theorem seq_scan (settings : Settings) (now : Int) (r : Unacked) :
    (r.scan settings now).1.seq = r.seq :=
  congrArg Packet.seq (packet_scan settings now r)

/-- After an insertion, the number is in flight, and no other comes or goes. -/
theorem mem_map_seq_insert (r : Unacked) (records : List Unacked) (seq : UInt32) :
    seq ∈ (insert r records).map Unacked.seq ↔ seq = r.seq ∨ seq ∈ records.map Unacked.seq := by
  induction records with
  | nil => simp [insert]
  | cons head rest ih =>
    unfold insert
    split
    · simp
    · split
      · rename_i heq
        simp [heq]
      · simp only [List.map_cons, List.mem_cons, ih]
        constructor
        · rintro (h | h | h)
          · exact .inr (.inl h)
          · exact .inl h
          · exact .inr (.inr h)
        · rintro (h | h | h)
          · exact .inr (.inl h)
          · exact .inl h
          · exact .inr (.inr h)

end Unacked

namespace Sender

/-- A fresh sender, unless the settings leave no window. -/
def create (settings : Settings) : Except SetupError Sender :=
  if settings.window = 0 then .error .emptyWindow else .ok {}

/-- Whether a packet of this size is refused whatever the state. -/
def refusal? (settings : Settings) (payload : Bytes) : Option SendError :=
  if payload.length > settings.maxPayload then
    some (.oversized payload.length settings.maxPayload)
  else none

/-- Whether the window has room for another packet. -/
def hasRoom (settings : Settings) (w : Sender) : Bool :=
  w.next - w.base < settings.window

/-- How many packets the window has room for. -/
def room (settings : Settings) (w : Sender) : Nat :=
  settings.window.toNat - (w.next - w.base).toNat

/-- Whether nothing is in flight. -/
def allAcked (w : Sender) : Bool :=
  w.inFlight.isEmpty

/-- The packet that carries `payload` with the sender's next number. -/
def packet (w : Sender) (payload : Bytes) (flags : Flags) : Packet :=
  ⟨w.next, 0, flags, payload⟩

/-- **Sending**, once there is room: the packet takes the next number and is in flight from now
on. -/
def send (now : Int) (payload : Bytes) (flags : Flags) (w : Sender) : Sender × List Action :=
  let p := w.packet payload flags
  ({ w with
      inFlight := Unacked.insert { packet := p, lastSent := now } w.inFlight
      next := w.next + 1
      packetsSent := w.packetsSent + 1 },
   [.transmit p])

/-- **Acknowledging** everything up to `number`.  The base only moves forward, and never past
what was sent. -/
def acknowledge (number : UInt32) (w : Sender) : Sender :=
  { w with
      inFlight := w.inFlight.filter (fun r => number < r.seq)
      base := if number < w.base then w.base
              else if number < w.next then number + 1 else w.next }

/-- **A scan** of the packets in flight, in the order of their numbers. -/
def scan (settings : Settings) (now : Int) (w : Sender) : Sender × List Action :=
  let scanned := w.inFlight.map (Unacked.scan settings now)
  let actions := scanned.flatMap (·.2)
  ({ w with
      inFlight := scanned.map (·.1)
      retransmissions := w.retransmissions + actions.countP Action.isRetransmit },
   actions)

/-- Stopping.  What is in flight stays there. -/
def stop (w : Sender) : Sender :=
  { w with running := false }

/-! ## The room in the window -/

/-- There is room as long as there is a place left. -/
theorem hasRoom_iff_room_pos (settings : Settings) (w : Sender) :
    w.hasRoom settings ↔ 0 < w.room settings := by
  simp only [hasRoom, room, decide_eq_true_eq, UInt32.lt_iff_toNat_lt]
  omega

/-- Each packet that is sent takes up one place. -/
theorem room_send {settings : Settings} {w : Sender} (h : w.hasRoom settings) (now : Int)
    (payload : Bytes) (flags : Flags) :
    (w.send now payload flags).1.room settings + 1 = w.room settings := by
  simp only [hasRoom, decide_eq_true_eq, UInt32.lt_iff_toNat_lt, UInt32.toNat_sub] at h
  have hwindow := settings.window.toNat_lt
  simp only [room, send, UInt32.toNat_sub, UInt32.toNat_add, UInt32.toNat_one]
  omega

/-! ## The numbers in flight

A scan changes no number, an acknowledgement keeps those above it, and sending adds the next
one. -/

/-- The numbers of the packets in flight. -/
def numbers (w : Sender) : List UInt32 :=
  w.inFlight.map Unacked.seq

/-- An acknowledgement keeps the numbers above it. -/
theorem numbers_acknowledge (number : UInt32) (w : Sender) :
    (w.acknowledge number).numbers = w.numbers.filter (number < ·) := by
  simp [numbers, acknowledge, List.filter_map, Function.comp_def]

/-- A scan keeps all numbers. -/
theorem numbers_scan (settings : Settings) (now : Int) (w : Sender) :
    (w.scan settings now).1.numbers = w.numbers := by
  simp [numbers, scan, Function.comp_def, Unacked.seq_scan]

/-- Sending adds the next number and no other. -/
theorem mem_numbers_send (now : Int) (payload : Bytes) (flags : Flags) (w : Sender)
    (seq : UInt32) :
    seq ∈ (w.send now payload flags).1.numbers ↔ seq = w.next ∨ seq ∈ w.numbers := by
  simp [numbers, send, packet, Unacked.mem_map_seq_insert]
  rfl

end Sender

end ReliableTransfer

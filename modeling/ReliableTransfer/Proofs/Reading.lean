import ReliableTransfer.Proofs.Framing
import ReliableTransfer.Proofs.Posting

/-!
# Reading from the network

A read that is over takes at most one arrival off the network.  What it brings depends on that
arrival alone, and nothing changes but what is still to come, what was counted, and what was
written.

* `Arrival.reading` — what an arrival holds for a port.
* `Arrival.damaged` — whether an arrival holds a damaged packet for a port.
* **`Endpoint.receive_eq`** — all that a read does.
* `Endpoint.receive_cases` — the same for a socket that is open, where only the time decides.
* `Endpoint.corrupted_receive` — what such a read counts.
-/

namespace ReliableTransfer

/-- What an arrival holds for a port.  A read takes only so many bytes of a datagram. -/
def Arrival.reading (port : UInt16) (a : Arrival) : Option Received :=
  match a.incoming with
  | .datagram bytes => Endpoint.reading port (bytes.take Host.readSize)
  | .fault _ => none

/-- Whether a datagram for a port holds a packet that cannot be decoded. -/
def Endpoint.damaged (port : UInt16) (bytes : Bytes) : Bool :=
  match unframe? bytes with
  | some d => d.udp.dstPort == port && !(Packet.decode d.app).isOk
  | none => false

/-- Whether an arrival holds a damaged packet for a port. -/
def Arrival.damaged (port : UInt16) (a : Arrival) : Bool :=
  match a.incoming with
  | .datagram bytes => Endpoint.damaged port (bytes.take Host.readSize)
  | .fault _ => false

/-- What a read gets of an arrival. -/
def Arrival.got (a : Arrival) : Except Fault Bytes :=
  match a.incoming with
  | .datagram bytes => .ok (bytes.take Host.readSize)
  | .fault cause => .error cause

lemma Arrival.reading_of_got {a : Arrival} {bytes : Bytes} (h : a.got = .ok bytes) (port : UInt16) :
    a.reading port = Endpoint.reading port bytes := by
  rw [got] at h
  rw [reading]
  cases hincoming : a.incoming with
  | datagram whole =>
      rw [hincoming] at h
      rw [← Except.ok.inj h]
  | fault cause =>
      rw [hincoming] at h
      cases h

/-- A read fails and leaves the machine as it is, or it takes the next arrival. -/
lemma Host.read_cases (h : Host) (descriptor : Option Nat) :
    (∃ cause, h.read descriptor = (.error cause, h)) ∨
    ∃ a rest, h.arrivals = a :: rest ∧ a.time ≤ h.now ∧
      h.read descriptor = (a.got, { h with arrivals := rest }) := by
  rw [read]
  cases descriptor.bind h.socket? with
  | none => exact .inl ⟨.badDescriptor, rfl⟩
  | some socket =>
      cases harrivals : h.arrivals with
      | nil => exact .inl ⟨.wouldBlock, rfl⟩
      | cons a rest =>
          dsimp only
          split_ifs with htime
          · refine .inr ⟨a, rest, rfl, htime, ?_⟩
            rw [Arrival.got]
            cases a.incoming with
            | datagram bytes => rfl
            | fault cause => rfl
          · exact .inl ⟨.wouldBlock, rfl⟩

lemma Host.noteIf_eq (h : Host) (condition : Bool) (n : Notice) :
    ∃ notices, h.noteIf condition n = { h with notices } := by
  rw [noteIf]
  split_ifs
  · exact ⟨_, rfl⟩
  · exact ⟨_, rfl⟩

namespace Endpoint

/-- Looking at a datagram changes only what was counted and what was written. -/
lemma interpret_eq (e : Endpoint) (bytes : Bytes) (h : Host) :
    ∃ corrupted notices, e.interpret bytes h
      = (reading e.port bytes, { e with corrupted }, { h with notices }) := by
  rw [interpret, reading]
  cases unframe? bytes with
  | none => exact ⟨e.corrupted, h.notices, rfl⟩
  | some d =>
      dsimp only
      split_ifs
      · exact ⟨e.corrupted, h.notices, rfl⟩
      · cases Packet.decode d.app with
        | error cause => exact ⟨e.corrupted + 1, _, rfl⟩
        | ok p => exact ⟨e.corrupted, h.notices, rfl⟩

/-- **A read that is over** brings nothing and leaves the network as it is, or it brings what the
next arrival holds. -/
lemma receive_eq (e : Endpoint) (h : Host) :
    ∃ received corrupted arrivals notices,
      e.receive h = (received, { e with corrupted }, { h with arrivals, notices }) ∧
      ((arrivals = h.arrivals ∧ received = none) ∨
        ∃ a, h.arrivals = a :: arrivals ∧ a.time ≤ h.now ∧ received = a.reading e.port) := by
  rw [receive]
  rcases h.read_cases e.descriptor with ⟨cause, hread⟩ | ⟨a, rest, harrivals, htime, hread⟩
  · obtain ⟨notices, hnotices⟩ :=
      h.noteIf_eq (!cause.silentOnReceive) (.callFailed .receiving cause)
    refine ⟨none, e.corrupted, h.arrivals, notices, ?_, .inl ⟨rfl, rfl⟩⟩
    simp only [hread, hnotices]
  · rw [hread, Arrival.got]
    cases hincoming : a.incoming with
    | datagram bytes =>
        obtain ⟨corrupted, notices, hinterpret⟩ :=
          e.interpret_eq (bytes.take Host.readSize) { h with arrivals := rest }
        exact ⟨_, corrupted, rest, notices, hinterpret, .inr ⟨a, harrivals, htime, by
          rw [Arrival.reading, hincoming]⟩⟩
    | fault cause =>
        obtain ⟨notices, hnotices⟩ := ({ h with arrivals := rest } : Host).noteIf_eq
          (!cause.silentOnReceive) (.callFailed .receiving cause)
        exact ⟨none, e.corrupted, rest, notices, congrArg (none, e, ·) hnotices,
          .inr ⟨a, harrivals, htime, by rw [Arrival.reading, hincoming]⟩⟩

/-- A read from an open socket takes the next arrival if its time has come, and brings nothing if
not. -/
lemma receive_cases {e : Endpoint} {h : Host} (hopen : e.Open h) :
    (∃ a rest corrupted notices, h.arrivals = a :: rest ∧ a.time ≤ h.now ∧
      e.receive h
        = (a.reading e.port, { e with corrupted }, { h with arrivals := rest, notices })) ∨
    ((∀ a ∈ h.arrivals.head?, h.now < a.time) ∧ e.receive h = (none, e, h)) := by
  obtain ⟨socket, hsocket⟩ := Option.isSome_iff_exists.1 hopen
  rw [receive, Host.read, hsocket]
  cases harrivals : h.arrivals with
  | nil => exact .inr ⟨nofun, rfl⟩
  | cons a rest =>
      by_cases htime : a.time ≤ h.now
      · refine .inl ⟨a, rest, ?_⟩
        dsimp only
        rw [if_pos htime, Arrival.reading]
        cases a.incoming with
        | datagram bytes =>
            obtain ⟨corrupted, notices, hinterpret⟩ :=
              e.interpret_eq (bytes.take Host.readSize) { h with arrivals := rest }
            exact ⟨corrupted, notices, rfl, htime, hinterpret⟩
        | fault cause =>
            obtain ⟨notices, hnotices⟩ := ({ h with arrivals := rest } : Host).noteIf_eq
              (!cause.silentOnReceive) (.callFailed .receiving cause)
            exact ⟨e.corrupted, notices, rfl, htime, congrArg (none, e, ·) hnotices⟩
      · refine .inr ⟨fun a' ha' => ?_, ?_⟩
        · obtain rfl := Option.some.inj ha'
          exact Int.not_le.1 htime
        · simp only [if_neg htime]
          rfl

/-- A datagram is counted if it holds a damaged packet for the port. -/
lemma corrupted_interpret (e : Endpoint) (bytes : Bytes) (h : Host) :
    (e.interpret bytes h).2.1.corrupted = e.corrupted + (damaged e.port bytes).toNat := by
  rw [interpret, damaged]
  cases unframe? bytes with
  | none => rfl
  | some d =>
      dsimp only
      by_cases hport : d.udp.dstPort = e.port
      · rw [if_neg (not_not.2 hport), beq_iff_eq.2 hport]
        cases Packet.decode d.app with
        | error cause => rfl
        | ok p => rfl
      · rw [if_pos hport, beq_eq_false_iff_ne.2 hport]
        rfl

/-- **What a read counts** that takes an arrival. -/
lemma corrupted_receive {e : Endpoint} {h : Host} (hopen : e.Open h) {a : Arrival}
    {rest : List Arrival} (harrivals : h.arrivals = a :: rest) (htime : a.time ≤ h.now) :
    (e.receive h).2.1.corrupted = e.corrupted + (a.damaged e.port).toNat := by
  obtain ⟨socket, hsocket⟩ := Option.isSome_iff_exists.1 hopen
  rw [receive, Host.read, hsocket, harrivals]
  dsimp only
  rw [if_pos htime, Arrival.damaged]
  cases a.incoming with
  | datagram bytes => exact corrupted_interpret e (bytes.take Host.readSize) _
  | fault cause => rfl

end Endpoint

end ReliableTransfer

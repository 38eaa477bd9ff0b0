import ReliableTransfer.Proofs.Carrying
import ReliableTransfer.Proofs.Dotted

/-!
# What goes in at one endpoint comes out at another

An endpoint hands a packet to the network just when the packet can be framed, and touches nothing
but its own lines otherwise.  What it handed over comes out unchanged at every endpoint on the port
it was sent to, whatever padding it has gathered on the way, and on no other port.

* `Endpoint.send_of_fits`, `Endpoint.send_of_not_fits` — when a packet is handed to the network.
* `Endpoint.receive_of_due` — a read that has something to take.
* `Endpoint.interpret_pack` — what an endpoint makes of a frame with padding behind it.
* **`Endpoint.transparent`** — the whole, from one endpoint to the other.
-/

namespace ReliableTransfer.Endpoint

/-- A packet can be framed: its payload is not too long, and both ends have an address. -/
def Fits (e : Endpoint) (p : Packet) (dst : Bytes) : Prop :=
  p.payload.length ≤ 65493 ∧ (Ipv4.Address.parse? e.address).isSome = true ∧
    (Ipv4.Address.parse? dst).isSome = true

variable {e reader : Endpoint} {h : Host} {p : Packet} {dst : Bytes} {dstPort : UInt16}

/-- What was framed could be framed. -/
lemma fits_of_pack {address : Ipv4.Address} {datagram : Bytes}
    (hpack : pack e.address e.port dst dstPort p = .ok (address, datagram)) : e.Fits p dst := by
  obtain ⟨app, _, hframe⟩ := exists_frame_of_pack hpack
  obtain ⟨_, a, b, ha, hb, _⟩ := frame_eq_ok_iff.1 hframe
  exact ⟨(length_le_of_pack hpack).1, Option.isSome_iff_exists.2 ⟨a, ha⟩,
    Option.isSome_iff_exists.2 ⟨b, hb⟩⟩

/-- **A packet that can be framed** is handed to the network once, now, for the place it is meant
for. -/
lemma send_of_fits (hopen : e.Open h) (hfits : e.Fits p dst) (dstPort : UInt16) :
    ∃ x notices, (e.send p dst dstPort h).2 = { h with sent := h.sent ++ [x], notices } ∧
      x.time = h.now ∧ Ipv4.Address.parse? dst = some x.address ∧ x.port = dstPort ∧
      pack e.address e.port dst dstPort p = .ok (x.address, x.frame) := by
  obtain ⟨hlength, hsrc, hdst⟩ := hfits
  obtain ⟨a, ha⟩ := Option.isSome_iff_exists.1 hsrc
  obtain ⟨b, hb⟩ := Option.isSome_iff_exists.1 hdst
  obtain ⟨datagram, hpack⟩ := exists_pack ha hb e.port dstPort hlength
  obtain ⟨sent, notices, hsend, hpostings⟩ := posted_send hopen dst dstPort p
  rw [posting?, hpack] at hpostings
  obtain ⟨x, rfl, hx⟩ := List.map_eq_singleton_iff.1 hpostings
  obtain ⟨time, address, port, frame, reported⟩ := x
  obtain ⟨rfl, rfl, rfl, rfl⟩ : time = h.now ∧ address = b ∧ port = dstPort ∧ frame = datagram := by
    simpa [Sending.posting] using hx
  exact ⟨_, notices, hsend, rfl, hb, rfl, hpack⟩

/-- **A packet that cannot be framed** is only written about. -/
lemma send_of_not_fits (hfits : ¬ e.Fits p dst) (dstPort : UInt16) (h : Host) :
    ∃ notices, e.send p dst dstPort h = (false, { h with notices }) := by
  rw [send]
  cases hpack : pack e.address e.port dst dstPort p with
  | error cause => exact ⟨_, rfl⟩
  | ok framed => exact absurd (fits_of_pack hpack) hfits

/-- A read from an open socket takes the next datagram if its time has come. -/
lemma receive_of_due (hopen : reader.Open h) {time : Int} {bytes : Bytes} {rest : List Arrival}
    (harrivals : h.arrivals = ⟨time, .datagram bytes⟩ :: rest) (htime : time ≤ h.now) :
    reader.receive h
      = reader.interpret (bytes.take Host.readSize) { h with arrivals := rest } := by
  obtain ⟨socket, hsocket⟩ := Option.isSome_iff_exists.1 hopen
  rw [receive, Host.read, hsocket, harrivals]
  simp only [if_pos htime]

/-- **A frame with padding behind it** holds its packet for the port it was sent to, and nothing
for any other. -/
lemma interpret_pack {address : Ipv4.Address} {datagram : Bytes}
    (hpack : pack e.address e.port dst dstPort p = .ok (address, datagram)) (padding : Bytes)
    (reader : Endpoint) (h : Host) :
    (reader.port = dstPort → ∃ source, source.dotted = untilNul e.address ∧
      reader.interpret (datagram ++ padding) h = (some ⟨p, source, e.port⟩, reader, h)) ∧
    (reader.port ≠ dstPort → reader.interpret (datagram ++ padding) h = (none, reader, h)) := by
  obtain ⟨app, happ, hframe⟩ := exists_frame_of_pack hpack
  obtain ⟨a, _, sum, ha, _, hunframe⟩ := unframe?_frame hframe padding
  constructor
  · intro hport
    refine ⟨a, Ipv4.Address.dotted_of_parse? ha, ?_⟩
    rw [interpret, hunframe]
    dsimp only
    rw [if_neg (not_not.2 hport.symm), Packet.decode_of_encode happ]
  · intro hport
    rw [interpret, hunframe]
    exact if_pos (Ne.symm hport)

/-- **An endpoint is transparent.**  It hands a packet to the network just when the packet can be
framed, and otherwise fails without a call to the system.  What it handed over, with any padding
that a read has room for, is read at each endpoint on the port it was meant for as the same packet,
from the port and the address it was sent from, and as nothing at each other endpoint. -/
theorem transparent (hopen : e.Open h) (p : Packet) (dst : Bytes) (dstPort : UInt16) :
    (¬ e.Fits p dst → ∃ notices, e.send p dst dstPort h = (false, { h with notices })) ∧
    (e.Fits p dst → ∃ x notices,
      (e.send p dst dstPort h).2 = { h with sent := h.sent ++ [x], notices } ∧
      x.time = h.now ∧ Ipv4.Address.parse? dst = some x.address ∧ x.port = dstPort ∧
      ∀ (padding : Bytes) (reader : Endpoint) (h' : Host) (time : Int) (rest : List Arrival),
        (x.frame ++ padding).length ≤ 65536 → reader.Open h' →
        h'.arrivals = ⟨time, .datagram (x.frame ++ padding)⟩ :: rest → time ≤ h'.now →
        (reader.port = dstPort → ∃ source, source.dotted = untilNul e.address ∧
          reader.receive h' = (some ⟨p, source, e.port⟩, reader, { h' with arrivals := rest })) ∧
        (reader.port ≠ dstPort →
          reader.receive h' = (none, reader, { h' with arrivals := rest }))) := by
  refine ⟨fun hfits => send_of_not_fits hfits dstPort h, fun hfits => ?_⟩
  obtain ⟨x, notices, hsend, htime, haddress, hport, hpack⟩ := send_of_fits hopen hfits dstPort
  refine ⟨x, notices, hsend, htime, haddress, hport, ?_⟩
  intro padding reader h' time rest hlength hopen' harrivals hdue
  have hwhole : (x.frame ++ padding).take Host.readSize = x.frame ++ padding :=
    List.take_of_length_le hlength
  rw [receive_of_due hopen' harrivals hdue, hwhole]
  exact interpret_pack hpack padding reader _

/-- A sender whose address has something behind a zero byte, with a socket. -/
def oddEndpoint : Endpoint where
  address := text "10.0.0.1" ++ [0, 57]
  port := 12345
  descriptor := some 3

/-- A machine with one open socket. -/
def openHost : Host where
  sockets := [⟨3, some 200⟩]

/-- An odd number of bytes goes out from there and comes in, with padding behind it, at an endpoint
that has been waiting; another one passes it over.  A name is no address to send to. -/
theorem transparent_odd :
    oddEndpoint.Open openHost ∧
    (∃ notices, oddEndpoint.send ⟨0, 7, Flags.ack, []⟩ (text "nowhere") 12346 openHost
      = (false, { openHost with notices })) ∧
    ∃ x notices,
      (oddEndpoint.send ⟨5, 0, Flags.data, [1, 2, 3]⟩ (text "10.0.0.2") 12346 openHost).2
        = { openHost with sent := [x], notices } ∧
      (∃ source, source.dotted = text "10.0.0.1" ∧
        ({ address := [], port := 12346, descriptor := some 3 } : Endpoint).receive
            { openHost with now := 9, arrivals := [⟨8, .datagram (x.frame ++ [0, 255])⟩] }
          = (some ⟨⟨5, 0, Flags.data, [1, 2, 3]⟩, source, 12345⟩,
            { address := [], port := 12346, descriptor := some 3 },
            { openHost with now := 9, arrivals := [] })) ∧
      ({ address := [], port := 80, descriptor := some 3 } : Endpoint).receive
          { openHost with now := 9, arrivals := [⟨8, .datagram (x.frame ++ [0, 255])⟩] }
        = (none, { address := [], port := 80, descriptor := some 3 },
          { openHost with now := 9, arrivals := [] }) := by
  have hopen : oddEndpoint.Open openHost := by rw [Open]; decide
  have hunfit : ¬ oddEndpoint.Fits ⟨0, 7, Flags.ack, []⟩ (text "nowhere") := by
    rw [Fits]
    decide +kernel
  have hfits : oddEndpoint.Fits ⟨5, 0, Flags.data, [1, 2, 3]⟩ (text "10.0.0.2") := by
    rw [Fits]
    decide +kernel
  refine ⟨hopen, (transparent hopen _ _ 12346).1 hunfit, ?_⟩
  obtain ⟨x, notices, hsend, _, _, _, hread⟩ :=
    (transparent hopen ⟨5, 0, Flags.data, [1, 2, 3]⟩ (text "10.0.0.2") 12346).2 hfits
  have hlength : (x.frame ++ [0, 255]).length ≤ 65536 := by
    have hframe : ((oddEndpoint.send ⟨5, 0, Flags.data, [1, 2, 3]⟩ (text "10.0.0.2") 12346
        openHost).2.sent.map (·.frame.length)) = [45] := by decide +kernel
    rw [hsend] at hframe
    have hframe' : x.frame.length = 45 := by simpa [openHost] using hframe
    rw [List.length_append, hframe']
    decide
  have hsource : untilNul oddEndpoint.address = text "10.0.0.1" := by decide
  refine ⟨x, notices, hsend, ?_, ?_⟩
  · obtain ⟨source, hdotted, hreceive⟩ := (hread [0, 255]
      { address := [], port := 12346, descriptor := some 3 }
      { openHost with now := 9, arrivals := [⟨8, .datagram (x.frame ++ [0, 255])⟩] } 8 []
      hlength (by rw [Open]; rfl) rfl (show (8 : Int) ≤ 9 by decide)).1 rfl
    exact ⟨source, hdotted.trans hsource, hreceive⟩
  · exact (hread [0, 255] { address := [], port := 80, descriptor := some 3 }
      { openHost with now := 9, arrivals := [⟨8, .datagram (x.frame ++ [0, 255])⟩] } 8 []
      hlength (by rw [Open]; rfl) rfl (show (8 : Int) ≤ 9 by decide)).2 (by decide)

end ReliableTransfer.Endpoint

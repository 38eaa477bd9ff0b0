import Mathlib.Data.List.Forall2
import ReliableTransfer.Proofs.Framing
import ReliableTransfer.Proofs.Packet.Encoding
import ReliableTransfer.Proofs.Posting

/-!
# What a datagram carries

A packet that is not too long gets through: its datagram can be written, and taking the datagram
apart gives the packet back, with the places it comes from and goes to.

* `exists_pack` — which packets can be framed.
* `Sending.Holds` — a datagram from one place to another holds a packet.
* **`Sending.holds_of_postings`** — the datagrams of some packets hold these packets, one by one,
  but for those that are too long.
-/

namespace ReliableTransfer

section Framing

variable {src dst : Bytes} {a b : Ipv4.Address}

/-- **A packet of ordinary length can be framed** between two addresses. -/
lemma exists_pack (hsrc : Ipv4.Address.parse? src = some a)
    (hdst : Ipv4.Address.parse? dst = some b) (srcPort dstPort : UInt16) {p : Packet}
    (h : p.payload.length ≤ 65493) :
    ∃ datagram, pack src srcPort dst dstPort p = .ok (b, datagram) := by
  have hfits : p.payload.length ≤ Packet.maxEncodable := Nat.le_trans h (by decide)
  have hlength : (p.layout (checksum (p.layout 0))).length ≤ 65507 := by
    rw [Packet.length_layout, Packet.headerSize]
    omega
  exact ⟨_, pack_eq_ok_iff.2 ⟨_, Packet.encode_of_fits hfits,
    frame_eq_ok_iff.2 ⟨hlength, a, b, hsrc, hdst, rfl⟩, hdst⟩⟩

section

variable {srcPort dstPort : UInt16} {p : Packet} {address : Ipv4.Address} {datagram : Bytes}

lemma exists_frame_of_pack (h : pack src srcPort dst dstPort p = .ok (address, datagram)) :
    ∃ app, p.encode = .ok app ∧ frame src srcPort dst dstPort app = .ok datagram := by
  obtain ⟨app, happ, hframe, _⟩ := pack_eq_ok_iff.1 h
  exact ⟨app, happ, hframe⟩

/-- What was framed is not too long, and goes to an address. -/
lemma length_le_of_pack (h : pack src srcPort dst dstPort p = .ok (address, datagram)) :
    p.payload.length ≤ 65493 ∧ ∃ b, Ipv4.Address.parse? dst = some b := by
  obtain ⟨app, happ, hframe, haddress⟩ := pack_eq_ok_iff.1 h
  obtain ⟨hlength, _⟩ := frame_eq_ok_iff.1 hframe
  obtain ⟨_, rfl⟩ := Packet.encode_eq_ok happ
  rw [Packet.length_layout, Packet.headerSize] at hlength
  exact ⟨by omega, address, haddress⟩

end

end Framing

/-- **A datagram holds a packet** from one place to another. -/
structure Sending.Holds (src : Ipv4.Address) (srcPort : UInt16) (dst : Ipv4.Address)
    (dstPort : UInt16) (x : Sending) (p : Packet) : Prop where
  address_eq : x.address = dst
  port_eq : x.port = dstPort
  content : ∃ d, unframe? x.frame = some d ∧ d.ip.src = src ∧ d.udp.srcPort = srcPort ∧
    d.ip.dst = dst ∧ d.udp.dstPort = dstPort ∧ Packet.decode d.app = .ok p

namespace Sending

variable {src dst : Bytes} {a b : Ipv4.Address}

lemma holds_of_pack (hsrc : Ipv4.Address.parse? src = some a)
    (hdst : Ipv4.Address.parse? dst = some b) {srcPort dstPort : UInt16} {p : Packet} {x : Sending}
    {time : Int} (hpack : pack src srcPort dst dstPort p = .ok (b, x.frame))
    (hposting : x.posting = (time, b, dstPort, x.frame)) : x.Holds a srcPort b dstPort p := by
  obtain ⟨app, happ, hframe⟩ := exists_frame_of_pack hpack
  obtain ⟨a', b', sum, ha, hb, hunframe⟩ := unframe?_frame hframe []
  rw [List.append_nil] at hunframe
  exact ⟨congrArg (·.2.1) hposting, congrArg (·.2.2.1) hposting, _, hunframe,
    Option.some.inj (ha.symm.trans hsrc), rfl, Option.some.inj (hb.symm.trans hdst), rfl,
    Packet.decode_of_encode happ⟩

/-- **The datagrams of some packets** hold these packets, one by one, but for those that are too
long. -/
lemma holds_of_postings (hsrc : Ipv4.Address.parse? src = some a)
    (hdst : Ipv4.Address.parse? dst = some b) {srcPort dstPort : UInt16}
    {calls : List (Int × Packet)} {sent : List Sending}
    (hsent : sent.map posting = calls.filterMap (posting? src srcPort dst dstPort)) :
    List.Forall₂ (Holds a srcPort b dstPort) sent
      ((calls.map Prod.snd).filter (·.payload.length ≤ 65493)) := by
  induction calls generalizing sent with
  | nil =>
      rw [List.filterMap_nil, List.map_eq_nil_iff] at hsent
      rw [hsent]
      exact .nil
  | cons c calls ih =>
      rw [List.map_cons, List.filter_cons]
      by_cases hlength : c.2.payload.length ≤ 65493
      · obtain ⟨datagram, hpack⟩ := exists_pack hsrc hdst srcPort dstPort hlength
        have hposting : posting? src srcPort dst dstPort c = some (c.1, b, dstPort, datagram) := by
          rw [posting?, hpack]
        rw [List.filterMap_cons_some hposting] at hsent
        obtain ⟨x, rest, rfl, hx, hrest⟩ := List.map_eq_cons_iff.1 hsent
        obtain rfl : x.frame = datagram := congrArg (·.2.2.2) hx
        rw [if_pos (decide_eq_true hlength)]
        exact .cons (holds_of_pack hsrc hdst hpack hx) (ih hrest)
      · have hposting : posting? src srcPort dst dstPort c = none := by
          rw [Option.eq_none_iff_forall_ne_some]
          intro x hx
          obtain ⟨address, datagram, hpack, _⟩ := exists_pack_of_posting? hx
          exact hlength (length_le_of_pack hpack).1
        rw [List.filterMap_cons_none hposting] at hsent
        rw [if_neg (by simpa using hlength)]
        exact ih hsent

end Sending

end ReliableTransfer

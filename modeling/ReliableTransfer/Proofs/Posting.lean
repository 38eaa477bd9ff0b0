import Mathlib.Tactic.Common
import ReliableTransfer.Endpoint

/-!
# What an endpoint hands to the network

An endpoint that sends a packet changes two things of its machine: what was handed to the network,
by the packet's frame, and what was written.  Whether the network takes the frame makes no
difference to that.

* `Posting`, `Sending.posting` — a datagram handed to the network, whatever came of it.
* `posting?` — the datagram of a packet, if the packet can be framed.
* `Host.Posted` — a machine that differs from another by such datagrams, and by what was written.
* `Endpoint.Open` — whether an endpoint has a socket that is open.
* **`Endpoint.posted_send`**, `Endpoint.exists_posted_send` — what sending a packet does.
-/

namespace ReliableTransfer

/-- When a datagram was handed to the network, where it goes, and what it is. -/
abbrev Posting := Int × Ipv4.Address × UInt16 × Bytes

/-- A datagram handed to the network, whatever came of it. -/
def Sending.posting (x : Sending) : Posting :=
  (x.time, x.address, x.port, x.frame)

/-- The datagram of a packet that is wanted at some time, if the packet can be framed. -/
def posting? (src : Bytes) (srcPort : UInt16) (dst : Bytes) (dstPort : UInt16)
    (call : Int × Packet) : Option Posting :=
  match pack src srcPort dst dstPort call.2 with
  | .ok (address, datagram) => some (call.1, address, dstPort, datagram)
  | .error _ => none

lemma exists_pack_of_posting? {src dst : Bytes} {srcPort dstPort : UInt16} {call : Int × Packet}
    {x : Posting} (h : posting? src srcPort dst dstPort call = some x) :
    ∃ address datagram, pack src srcPort dst dstPort call.2 = .ok (address, datagram) ∧
      x = (call.1, address, dstPort, datagram) := by
  rw [posting?] at h
  split at h
  · rename_i address datagram hpack
    exact ⟨address, datagram, hpack, (Option.some.inj h).symm⟩
  · cases h

/-- The second machine is the first after these datagrams were handed to the network.  Lines may
have been written. -/
def Host.Posted (more : List Posting) (h h' : Host) : Prop :=
  ∃ sent notices, h' = { h with sent := h.sent ++ sent, notices } ∧ sent.map Sending.posting = more

namespace Host.Posted

variable {more more' : List Posting} {h h' h'' : Host}

lemma refl (h : Host) : Posted [] h h :=
  ⟨[], h.notices, by rw [List.append_nil], rfl⟩

lemma note (h : Host) (n : Notice) : Posted [] h (h.note n) :=
  ⟨[], h.notices ++ [n], by rw [List.append_nil]; rfl, rfl⟩

lemma noteIf (h : Host) (condition : Bool) (n : Notice) : Posted [] h (h.noteIf condition n) := by
  rw [Host.noteIf]
  split_ifs
  · exact note h n
  · exact refl h

lemma trans (first : Posted more h h') (second : Posted more' h' h'') :
    Posted (more ++ more') h h'' := by
  obtain ⟨sent, notices, rfl, rfl⟩ := first
  obtain ⟨sent', notices', rfl, rfl⟩ := second
  exact ⟨sent ++ sent', notices', by rw [List.append_assoc], List.map_append⟩

/-- What is written afterwards makes no difference. -/
lemma and_note (first : Posted more h h') (n : Notice) : Posted more h (h'.note n) := by
  have hboth := first.trans (note h' n)
  rwa [List.append_nil] at hboth

lemma now_eq (hp : Posted more h h') : h'.now = h.now := by
  obtain ⟨sent, notices, rfl, _⟩ := hp
  rfl

lemma files_eq (hp : Posted more h h') : h'.files = h.files := by
  obtain ⟨sent, notices, rfl, _⟩ := hp
  rfl

lemma arrivals_eq (hp : Posted more h h') : h'.arrivals = h.arrivals := by
  obtain ⟨sent, notices, rfl, _⟩ := hp
  rfl

lemma sockets_eq (hp : Posted more h h') : h'.sockets = h.sockets := by
  obtain ⟨sent, notices, rfl, _⟩ := hp
  rfl

lemma printed_eq (hp : Posted more h h') : h'.printed = h.printed := by
  obtain ⟨sent, notices, rfl, _⟩ := hp
  rfl

end Host.Posted

namespace Endpoint

/-- Whether an endpoint has a socket that is open. -/
def Open (e : Endpoint) (h : Host) : Prop :=
  (e.descriptor.bind h.socket?).isSome = true

/-- Only the descriptor and the sockets matter for that. -/
lemma Open.of_eq {e e' : Endpoint} {h h' : Host} (hopen : e.Open h)
    (hdescriptor : e'.descriptor = e.descriptor) (hsockets : h'.sockets = h.sockets) :
    e'.Open h' := by
  have hsocket : h'.socket? = h.socket? := by
    funext descriptor
    rw [Host.socket?, hsockets]
    rfl
  rw [Open, hdescriptor, hsocket]
  exact hopen

/-- Handing a datagram to the network from an open socket. -/
lemma posted_sendTo {e : Endpoint} {h : Host} (hopen : e.Open h) (address : Ipv4.Address)
    (port : UInt16) (datagram : Bytes) :
    ∃ outcome h', h.sendTo e.descriptor address port datagram = (outcome, h') ∧
      h.Posted [(h.now, address, port, datagram)] h' := by
  obtain ⟨socket, hsocket⟩ := Option.isSome_iff_exists.1 hopen
  rw [Host.sendTo, hsocket]
  exact ⟨_, _, rfl, _, _, rfl, rfl⟩

/-- **Sending a packet** hands the packet's frame to the network, if the packet can be framed. -/
lemma posted_send {e : Endpoint} {h : Host} (hopen : e.Open h) (dst : Bytes) (dstPort : UInt16)
    (p : Packet) :
    h.Posted (posting? e.address e.port dst dstPort (h.now, p)).toList
      (e.send p dst dstPort h).2 := by
  rw [send, posting?]
  rcases pack e.address e.port dst dstPort p with cause | ⟨address, datagram⟩
  · exact .note h (.cannotPack p cause)
  · obtain ⟨outcome, h', hsend, hposted⟩ := posted_sendTo hopen address dstPort datagram
    simp only [hsend]
    rcases outcome with cause | sent
    · exact hposted.and_note (.callFailed .sending cause)
    · dsimp only
      split_ifs
      · exact hposted
      · exact hposted.and_note (.partialSend sent datagram.length)

/-- Where nothing befalls what is sent, a packet that can be framed gets out. -/
lemma send_of_unfaulted {e : Endpoint} {h : Host} (hopen : e.Open h) (hfaults : h.sendFaults = [])
    {dst : Bytes} {dstPort : UInt16} {p : Packet} {out : Ipv4.Address × Bytes}
    (hpack : pack e.address e.port dst dstPort p = .ok out) :
    (e.send p dst dstPort h).1 = true := by
  obtain ⟨socket, hsocket⟩ := Option.isSome_iff_exists.1 hopen
  have houtcome : h.sendOutcome out.2 = .ok out.2.length := by
    rw [Host.sendOutcome, hfaults]
    rfl
  rw [send, hpack]
  dsimp only
  rw [Host.sendTo, hsocket]
  dsimp only
  rw [houtcome]
  dsimp only
  rw [if_pos rfl]

/-- Without an open socket nothing is handed over, and that is all there is to it. -/
lemma exists_posted_send (e : Endpoint) (h : Host) (dst : Bytes) (dstPort : UInt16) (p : Packet) :
    ∃ more, h.Posted more (e.send p dst dstPort h).2 := by
  by_cases hopen : e.Open h
  · exact ⟨_, posted_send hopen dst dstPort p⟩
  · have hnone : e.descriptor.bind h.socket? = none := Option.not_isSome_iff_eq_none.1 hopen
    refine ⟨[], ?_⟩
    rw [send]
    rcases pack e.address e.port dst dstPort p with cause | ⟨address, datagram⟩
    · exact .note h _
    · dsimp only
      rw [Host.sendTo, hnone]
      exact .note h _

end Endpoint

end ReliableTransfer

import Mathlib.Data.Option.Basic
import ReliableTransfer.Endpoint
import ReliableTransfer.Proofs.Packet.Encoding

/-!
# What is in a frame

A packet is sent as bytes inside a UDP datagram inside an IPv4 datagram.  Taking a frame apart
gives back what was put into it, and bytes behind it make no difference.

* `frame_eq_ok_iff` — what a frame consists of, and when there is one.
* **`unframe?_frame`** — all that unframing a frame gives.
* `pack_eq_ok_iff` — a packet as a datagram.
* `Endpoint.reading` — what a datagram holds for a port, apart from what is counted and written
  about it.
* **`Endpoint.packet_of_reading`** — where a frame of a packet is read as a packet, it is that
  packet.
-/

namespace ReliableTransfer

/-! ## Checks one after the other -/

lemma bind_eq_ok_iff {ε α β : Type} {first : Except ε α} {second : α → Except ε β} {b : β} :
    first >>= second = .ok b ↔ ∃ a, first = .ok a ∧ second a = .ok b := by
  rcases first with cause | a
  · simp [bind, Except.bind]
  · simp [bind, Except.bind]

lemma mapError_eq_ok_iff {ε ε' α : Type} {first : Except ε α} {wrap : ε → ε'} {a : α} :
    first.mapError wrap = .ok a ↔ first = .ok a := by
  rcases first with cause | a'
  · simp [Except.mapError]
  · simp [Except.mapError]

/-! ## The headers -/

/-- The size a length field states. -/
lemma toNat_length_field {n : Nat} (h : n ≤ 65535) : (UInt16.ofNat n).toNat = n := by
  rw [UInt16.toNat_ofNat']
  omega

lemma Udp.build_eq_ok_iff {srcPort dstPort : UInt16} {size : Nat} {header : Bytes} :
    Udp.build srcPort dstPort size = .ok header ↔ size ≤ 65527 ∧
      word16 srcPort ++ word16 dstPort ++ word16 (UInt16.ofNat (8 + size)) ++ word16 0 = header := by
  rw [Udp.build]
  split_ifs with hsize
  · simp only [false_iff, not_and]
    exact fun h => absurd hsize (Nat.not_lt.2 h)
  · rw [Except.ok.injEq]
    exact (and_iff_right (Nat.not_lt.1 hsize)).symm

lemma Ipv4.address_eq_ok_iff {s : Bytes} {a : Ipv4.Address} :
    Ipv4.address s = .ok a ↔ Ipv4.Address.parse? s = some a := by
  rw [Ipv4.address]
  cases Ipv4.Address.parse? s <;> simp

/-- **A header that was written** carries the checksum of itself with zeros in that place. -/
lemma Ipv4.build_eq_ok_iff {src dst : Bytes} {size : Nat} {header : Bytes} :
    Ipv4.build src dst size = .ok header ↔ size ≤ 65515 ∧ ∃ a b,
      Ipv4.Address.parse? src = some a ∧ Ipv4.Address.parse? dst = some b ∧
      Ipv4.layout (UInt16.ofNat (20 + size))
        (checksum (Ipv4.layout (UInt16.ofNat (20 + size)) 0 a b)) a b = header := by
  rw [Ipv4.build]
  split_ifs with hsize
  · simp only [false_iff, not_and]
    exact fun h => absurd hsize (Nat.not_lt.2 h)
  · simp only [bind_eq_ok_iff, Ipv4.address_eq_ok_iff, pure, Except.pure, Except.ok.injEq]
    constructor
    · rintro ⟨a, ha, b, hb, h⟩
      exact ⟨Nat.not_lt.1 hsize, a, b, ha, hb, h⟩
    · rintro ⟨_, a, b, ha, hb, h⟩
      exact ⟨a, ha, b, hb, h⟩

/-- Reading a header that was written here, whatever its checksum field holds. -/
lemma Ipv4.parse?_layout (total sum : UInt16) (a b : Ipv4.Address) (rest : Bytes) :
    Ipv4.Header.parse? (Ipv4.layout total sum a b ++ rest) = some {
      version := 4, headerLength := 20, tos := 0, totalLength := total, identification := 0
      flagsFragment := 0x4000, ttl := 64, protocol := Ipv4.protocolUdp, checksum := sum
      src := a, dst := b } := by
  simp only [Ipv4.layout, word16, Ipv4.Address.toBytes, List.cons_append, List.nil_append,
    Ipv4.Header.parse?, joinWord16_bytes]
  rfl

/-- A header is read from the front of the data. -/
lemma Ipv4.parse?_append {front : Bytes} {ip : Ipv4.Header}
    (h : Ipv4.Header.parse? front = some ip) (rest : Bytes) :
    Ipv4.Header.parse? (front ++ rest) = some ip := by
  unfold Header.parse? at h
  split at h
  · rw [← h]
    rfl
  · cases h

lemma Udp.parse?_append {front : Bytes} {udp : Udp.Header}
    (h : Udp.Header.parse? front = some udp) (rest : Bytes) :
    Udp.Header.parse? (front ++ rest) = some udp := by
  unfold Header.parse? at h
  split at h
  · rw [← h]
    rfl
  · cases h

lemma Udp.parse?_words (srcPort dstPort length sum : UInt16) (rest : Bytes) :
    Udp.Header.parse? (word16 srcPort ++ word16 dstPort ++ word16 length ++ word16 sum ++ rest)
      = some ⟨srcPort, dstPort, length, sum⟩ := by
  simp only [word16, List.cons_append, List.nil_append, Udp.Header.parse?, joinWord16_bytes]

/-! ## Frames -/

/-- **What is taken for a datagram**: both headers can be read, and the outer one says that it is
one of IPv4, carries UDP, and is no shorter than it can be. -/
lemma unframe?_eq_some_iff {data : Bytes} {view : Datagram} :
    unframe? data = some view ↔ ∃ ip udp, Ipv4.Header.parse? data = some ip ∧
      (ip.version = 4 ∧ ip.protocol = Ipv4.protocolUdp) ∧ Ipv4.headerSize ≤ ip.headerLength ∧
      Udp.Header.parse? (data.drop ip.headerLength) = some udp ∧ {
        ip, udp
        offset := ip.headerLength + Udp.headerSize
        app := boundByLength udp.length ((data.drop ip.headerLength).drop Udp.headerSize) } = view
      := by
  simp only [unframe?, Option.bind_eq_bind, Option.bind_eq_some_iff, Option.guard_eq_some',
    exists_and_left, exists_const, pure, Option.some.injEq]

section Frames

variable {src dst app datagram : Bytes} {srcPort dstPort : UInt16}

/-- **A frame**: the two headers in front of bytes that are not too many. -/
lemma frame_eq_ok_iff : frame src srcPort dst dstPort app = .ok datagram ↔
    app.length ≤ 65507 ∧ ∃ a b, Ipv4.Address.parse? src = some a ∧
      Ipv4.Address.parse? dst = some b ∧
      Ipv4.layout (UInt16.ofNat (28 + app.length))
          (checksum (Ipv4.layout (UInt16.ofNat (28 + app.length)) 0 a b)) a b ++
        (word16 srcPort ++ word16 dstPort ++ word16 (UInt16.ofNat (8 + app.length)) ++ word16 0)
          ++ app = datagram := by
  have hlength : (word16 srcPort ++ word16 dstPort ++ word16 (UInt16.ofNat (8 + app.length)) ++
      word16 0).length = 8 := rfl
  simp only [frame, bind_eq_ok_iff, mapError_eq_ok_iff, Udp.build_eq_ok_iff, Ipv4.build_eq_ok_iff,
    pure, Except.pure, Except.ok.injEq]
  constructor
  · rintro ⟨_, ⟨_, rfl⟩, _, ⟨hsize, a, b, ha, hb, rfl⟩, h⟩
    rw [hlength] at hsize h
    rw [← Nat.add_assoc] at h
    exact ⟨by omega, a, b, ha, hb, h⟩
  · rintro ⟨hsize, a, b, ha, hb, h⟩
    refine ⟨_, ⟨by omega, rfl⟩, _, ⟨?_, a, b, ha, hb, rfl⟩, ?_⟩
    · rw [hlength]
      omega
    · rw [hlength, ← Nat.add_assoc]
      exact h

/-- Unframing looks at neither the checksum of the outer header nor the bytes behind the frame. -/
lemma unframe?_layout (hlength : app.length ≤ 65507) (sum : UInt16) (a b : Ipv4.Address)
    (srcPort dstPort : UInt16) (rest : Bytes) :
    unframe? (Ipv4.layout (UInt16.ofNat (28 + app.length)) sum a b ++
        (word16 srcPort ++ word16 dstPort ++ word16 (UInt16.ofNat (8 + app.length)) ++ word16 0)
          ++ app ++ rest) = some {
      ip := {
        version := 4, headerLength := 20, tos := 0
        totalLength := UInt16.ofNat (28 + app.length)
        identification := 0, flagsFragment := 0x4000, ttl := 64, protocol := Ipv4.protocolUdp
        checksum := sum, src := a, dst := b }
      udp := ⟨srcPort, dstPort, UInt16.ofNat (8 + app.length), 0⟩
      offset := 28
      app } := by
  have hbound : boundByLength (UInt16.ofNat (8 + app.length)) (app ++ rest) = app := by
    rw [boundByLength, toNat_length_field (by omega),
      if_pos (show Udp.headerSize ≤ 8 + app.length from Nat.le_add_right 8 _),
      show 8 + app.length - Udp.headerSize = app.length from Nat.add_sub_cancel_left 8 _,
      List.take_left]
  have hsegment : (Ipv4.layout (UInt16.ofNat (28 + app.length)) sum a b ++
      (word16 srcPort ++ word16 dstPort ++ word16 (UInt16.ofNat (8 + app.length)) ++ word16 0
        ++ (app ++ rest))).drop 20 =
      word16 srcPort ++ word16 dstPort ++ word16 (UInt16.ofNat (8 + app.length)) ++ word16 0
        ++ (app ++ rest) := List.drop_left' rfl
  have hbody : (word16 srcPort ++ word16 dstPort ++ word16 (UInt16.ofNat (8 + app.length)) ++
      word16 0 ++ (app ++ rest)).drop Udp.headerSize = app ++ rest := List.drop_left' rfl
  rw [List.append_assoc, List.append_assoc, unframe?_eq_some_iff]
  refine ⟨_, ⟨srcPort, dstPort, UInt16.ofNat (8 + app.length), 0⟩, Ipv4.parse?_layout _ _ _ _ _,
    ⟨rfl, rfl⟩, Nat.le_refl 20, ?_, ?_⟩
  · rw [hsegment, Udp.parse?_words]
  · rw [hsegment, hbody, hbound]
    rfl

/-- **Unframing a frame** gives the application bytes, the ports and the addresses, and the fields
this program writes into every header. -/
lemma unframe?_frame (h : frame src srcPort dst dstPort app = .ok datagram) (rest : Bytes) :
    ∃ a b sum, Ipv4.Address.parse? src = some a ∧ Ipv4.Address.parse? dst = some b ∧
      unframe? (datagram ++ rest) = some {
        ip := {
          version := 4, headerLength := 20, tos := 0
          totalLength := UInt16.ofNat (28 + app.length)
          identification := 0, flagsFragment := 0x4000, ttl := 64, protocol := Ipv4.protocolUdp
          checksum := sum, src := a, dst := b }
        udp := ⟨srcPort, dstPort, UInt16.ofNat (8 + app.length), 0⟩
        offset := 28
        app } := by
  obtain ⟨hlength, a, b, ha, hb, rfl⟩ := frame_eq_ok_iff.1 h
  exact ⟨a, b, _, ha, hb, unframe?_layout hlength _ a b srcPort dstPort rest⟩

end Frames

/-! ## Packets -/

/-- **A packet as a datagram**: its bytes in a frame, with the address the frame goes to. -/
lemma pack_eq_ok_iff {src dst datagram : Bytes} {srcPort dstPort : UInt16} {p : Packet}
    {address : Ipv4.Address} : pack src srcPort dst dstPort p = .ok (address, datagram) ↔
      ∃ app, p.encode = .ok app ∧ frame src srcPort dst dstPort app = .ok datagram ∧
        Ipv4.Address.parse? dst = some address := by
  simp only [pack, bind_eq_ok_iff, mapError_eq_ok_iff, Ipv4.address_eq_ok_iff, pure, Except.pure,
    Except.ok.injEq, Prod.mk.injEq]
  constructor
  · rintro ⟨app, happ, _, hframe, _, haddress, rfl, rfl⟩
    exact ⟨app, happ, hframe, haddress⟩
  · rintro ⟨app, happ, hframe, haddress⟩
    exact ⟨app, happ, datagram, hframe, address, haddress, rfl, rfl⟩

namespace Endpoint

/-- What a datagram holds for a port: an intact packet, with where it comes from. -/
def reading (port : UInt16) (bytes : Bytes) : Option Received :=
  match unframe? bytes with
  | none => none
  | some d =>
    if d.udp.dstPort ≠ port then none
    else
      match Packet.decode d.app with
      | .ok p => some ⟨p, d.ip.src, d.udp.srcPort⟩
      | .error _ => none

/-- **A frame of a packet that is read as a packet** is read as that packet, from the address and
the port it was sent from. -/
lemma packet_of_reading {src dst datagram : Bytes} {srcPort dstPort port : UInt16} {p : Packet}
    {address : Ipv4.Address} (h : pack src srcPort dst dstPort p = .ok (address, datagram))
    {r : Received} (hr : reading port datagram = some r) :
    r.packet = p ∧ Ipv4.Address.parse? src = some r.source ∧ r.port = srcPort := by
  obtain ⟨app, happ, hframe, _⟩ := pack_eq_ok_iff.1 h
  obtain ⟨a, b, sum, ha, _, hunframe⟩ := unframe?_frame hframe []
  rw [List.append_nil] at hunframe
  rw [reading, hunframe] at hr
  dsimp only at hr
  split_ifs at hr
  split at hr
  · rename_i q hdecode
    rw [Packet.decode_of_encode happ] at hdecode
    rw [← Option.some.inj hr]
    exact ⟨(Except.ok.inj hdecode).symm, ha, rfl⟩
  · cases hr

end Endpoint

end ReliableTransfer

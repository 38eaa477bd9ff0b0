import ReliableTransfer.Proofs.Dotted
import ReliableTransfer.Proofs.Framing

/-!
# Datagrams through their frames

Two headers with a length field each are put in front of the bytes of an application, and the outer
one counts the inner one too: 65507 bytes are what both have room for.  A frame that is built carries
an outer header that sums up, and is taken apart into what was put in, whatever stands behind it.

* `Ipv4.checksum_layout` — the header of a frame sums up to all ones.
* `exists_error_iff` — which frames cannot be built.
* **`frame_round_trip`** — the whole.
-/

namespace ReliableTransfer

lemma Ipv4.length_layout (total sum : UInt16) (a b : Ipv4.Address) :
    (Ipv4.layout total sum a b).length = 20 := rfl

/-- **A header with its checksum** sums up to all ones. -/
lemma Ipv4.checksum_layout (total : UInt16) (a b : Ipv4.Address) :
    checksum (Ipv4.layout total (checksum (Ipv4.layout total 0 a b)) a b) = 0 := by
  -- the checksum field stands behind five words
  have hfront : ([0x45, 0] ++ word16 total ++ word16 0 ++ word16 0x4000 ++
      [64, Ipv4.protocolUdp]).length % 2 = 0 := by
    simp [length_word16]
  have hsum := Checksum.verifies_checksum hfront (a.toBytes ++ b.toBytes)
  simp only [← List.append_assoc] at hsum
  rw [verifies, beq_iff_eq] at hsum
  exact hsum

variable {src dst app datagram : Bytes} {srcPort dstPort : UInt16}

/-- **Which frames cannot be built**: those of too many bytes, and those from or to a text that is
not an address in its written form. -/
lemma exists_error_iff :
    (∃ cause, frame src srcPort dst dstPort app = .error cause) ↔
      65507 < app.length ∨ (¬ ∃ a : Ipv4.Address, a.dotted = untilNul src) ∨
        ¬ ∃ b : Ipv4.Address, b.dotted = untilNul dst := by
  have hok : (∃ datagram, frame src srcPort dst dstPort app = .ok datagram) ↔
      app.length ≤ 65507 ∧ (∃ a : Ipv4.Address, a.dotted = untilNul src) ∧
        ∃ b : Ipv4.Address, b.dotted = untilNul dst := by
    simp only [frame_eq_ok_iff, Ipv4.Address.parse?_eq_some_iff]
    constructor
    · rintro ⟨_, hsize, a, b, ha, hb, _⟩
      exact ⟨hsize, ⟨a, ha⟩, b, hb⟩
    · rintro ⟨hsize, ⟨a, ha⟩, b, hb⟩
      exact ⟨_, hsize, a, b, ha, hb, rfl⟩
  rw [← Nat.not_le, ← not_and_or, ← not_and_or, ← hok]
  cases frame src srcPort dst dstPort app <;> simp

/-- **Datagrams come through their frames.**  A frame cannot be built just when there are more than
65507 bytes to carry or one of the texts is not an address.  Otherwise it is 28 bytes longer than
what it carries, its first twenty bytes sum up to all ones, and with any padding behind it it is taken
apart into the same bytes, ports and addresses, with lengths that count the headers. -/
theorem frame_round_trip (src dst app : Bytes) (srcPort dstPort : UInt16) :
    ((∃ cause, frame src srcPort dst dstPort app = .error cause) ↔
      65507 < app.length ∨ (¬ ∃ a : Ipv4.Address, a.dotted = untilNul src) ∨
        ¬ ∃ b : Ipv4.Address, b.dotted = untilNul dst) ∧
    ∀ datagram, frame src srcPort dst dstPort app = .ok datagram →
      datagram.length = 28 + app.length ∧ checksum (datagram.take 20) = 0 ∧
      ∀ padding, ∃ view, unframe? (datagram ++ padding) = some view ∧ view.offset = 28 ∧
        view.app = app ∧ view.udp.srcPort = srcPort ∧ view.udp.dstPort = dstPort ∧
        view.udp.length.toNat = 8 + app.length ∧ view.ip.totalLength.toNat = 28 + app.length ∧
        view.ip.headerLength = 20 ∧ view.ip.src.dotted = untilNul src ∧
        view.ip.dst.dotted = untilNul dst := by
  refine ⟨exists_error_iff, fun datagram hframe => ?_⟩
  obtain ⟨hsize, a, b, ha, hb, rfl⟩ := frame_eq_ok_iff.1 hframe
  refine ⟨?_, ?_, fun padding => ⟨_, unframe?_layout hsize _ a b srcPort dstPort padding, rfl, rfl,
    rfl, rfl, toNat_length_field (by omega), toNat_length_field (by omega), rfl,
    Ipv4.Address.dotted_of_parse? ha, Ipv4.Address.dotted_of_parse? hb⟩⟩
  · simp only [List.length_append, Ipv4.length_layout, length_word16]
  · rw [List.append_assoc, List.take_left' (Ipv4.length_layout _ _ a b)]
    exact Ipv4.checksum_layout _ a b

/-- Three bytes go from an address with something behind its zero byte, and padding gathers behind
them; a name is no address to send to. -/
theorem frame_round_trip_padded :
    frame (text "10.0.0.1" ++ [0, 57]) 12345 (text "10.0.0.2") 12346 [1, 2, 3]
      = .ok [69, 0, 0, 31, 0, 0, 64, 0, 64, 17, 38, 204, 10, 0, 0, 1, 10, 0, 0, 2,
          48, 57, 48, 58, 0, 11, 0, 0, 1, 2, 3] ∧
    checksum [69, 0, 0, 31, 0, 0, 64, 0, 64, 17, 38, 204, 10, 0, 0, 1, 10, 0, 0, 2] = 0 ∧
    (∃ view, unframe? ([69, 0, 0, 31, 0, 0, 64, 0, 64, 17, 38, 204, 10, 0, 0, 1, 10, 0, 0, 2,
        48, 57, 48, 58, 0, 11, 0, 0, 1, 2, 3] ++ [0, 255]) = some view ∧
      view.offset = 28 ∧ view.app = [1, 2, 3] ∧ view.ip.src.dotted = text "10.0.0.1") ∧
    ∃ cause, frame (text "10.0.0.1") 12345 (text "nowhere") 12346 [] = .error cause := by
  have hframe : frame (text "10.0.0.1" ++ [0, 57]) 12345 (text "10.0.0.2") 12346 [1, 2, 3]
      = .ok [69, 0, 0, 31, 0, 0, 64, 0, 64, 17, 38, 204, 10, 0, 0, 1, 10, 0, 0, 2,
          48, 57, 48, 58, 0, 11, 0, 0, 1, 2, 3] := by decide +kernel
  have hsource : untilNul (text "10.0.0.1" ++ [0, 57]) = text "10.0.0.1" := by decide
  have hnone : Ipv4.Address.parse? (text "nowhere") = none := by decide +kernel
  have hname : ¬ ∃ b : Ipv4.Address, b.dotted = untilNul (text "nowhere") := by
    rintro ⟨b, hb⟩
    rw [← Ipv4.Address.parse?_eq_some_iff, hnone] at hb
    cases hb
  obtain ⟨_, hsum, hread⟩ := (frame_round_trip _ _ _ _ _).2 _ hframe
  obtain ⟨view, hview, hoffset, happ, _, _, _, _, _, hsrc, _⟩ := hread [0, 255]
  exact ⟨hframe, hsum, ⟨view, hview, hoffset, happ, hsrc.trans hsource⟩,
    (frame_round_trip _ _ _ _ _).1.2 (.inr (.inr hname))⟩

end ReliableTransfer

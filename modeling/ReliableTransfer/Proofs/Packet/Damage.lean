import ReliableTransfer.Proofs.Packet.Encoding

/-!
# Damaged packets

What can happen to the bytes of a packet on the way without being found out?  Not a change of one
byte or of two neighbouring ones, wherever they stand, unless it is zeros that turn into ones or ones
that turn into zeros.  And not the loss of an end, however much or little is left: where the checksum
lets it pass, the header still states the length of the whole.

* `Packet.read_of_length_lt`, **`Packet.read_take`** — what is read of a packet that is cut off.
* **`Packet.damage_detected`** — the whole, for decoding.
-/

namespace ReliableTransfer.Packet

/-- The header cannot be read when it is not all there. -/
lemma read_of_length_lt {data : Bytes} (h : data.length < headerSize) :
    read data = .error (.truncatedHeader data.length) := by
  unfold read
  split
  · simp only [List.length_cons, headerSize] at h
    omega
  · rfl

/-- **A packet that is cut off** cannot be read: the header is not all there, or it states a longer
payload than is left. -/
lemma read_take {p : Packet} (hfits : p.payload.length ≤ maxEncodable) (sum : UInt16) {n : Nat}
    (hn : n < (p.layout sum).length) :
    read ((p.layout sum).take n)
      = .error (if n < headerSize then .truncatedHeader n
          else .truncatedPayload p.payload.length (n - headerSize)) := by
  have hlength : ((p.layout sum).take n).length = n := List.length_take_of_le (Nat.le_of_lt hn)
  rw [length_layout] at hn
  split_ifs with hheader
  · rw [read_of_length_lt (hlength.symm ▸ hheader), hlength]
  · -- the header is all there, and states the length of the payload as it was
    have hcut : (p.layout sum).take n = word32 p.seq ++ word32 p.ack ++ word16 p.flags ++ word16 sum
        ++ word16 p.payloadLength ++ p.payload.take (n - headerSize) := by
      rw [layout, List.take_append, List.take_of_length_le (Nat.not_lt.1 hheader)]
      rfl
    have hleft : (p.payload.take (n - headerSize)).length = n - headerSize :=
      List.length_take_of_le (by omega)
    have hstated : p.payloadLength.toNat = p.payload.length := toNat_payloadLength hfits
    have hmore : n - headerSize < p.payload.length := by omega
    rw [hcut]
    simp [word32, word16, read, joinWord16_bytes, hstated, hleft, hmore]

/-- **Damage is detected.**  A packet whose payload has at most 65535 bytes can be laid out, and when
one of its bytes or two neighbouring ones are replaced by others, at whatever place, then what comes
of it is refused as corrupted, except that two bytes of zeros may turn into ones, or two bytes of
ones into zeros.  When something is missing at the end, be it everything, it is refused too. -/
theorem damage_detected {p : Packet} (hfits : p.payload.length ≤ 65535) :
    ∃ bytes, p.encode = .ok bytes ∧
      (∀ front old new back, bytes = front ++ old ++ back → new.length = old.length →
        old.length ≤ 2 → new ≠ old → ¬ (old = [0, 0] ∧ new = [255, 255]) →
        ¬ (old = [255, 255] ∧ new = [0, 0]) → decode (front ++ new ++ back) = .error .corrupted) ∧
      ∀ front, front <+: bytes → front ≠ bytes → ∃ cause, decode front = .error cause := by
  refine ⟨_, encode_of_fits hfits, ?_, fun front hfront hne => ?_⟩
  · intro front old new back hcut hlength hshort hne hup hdown
    have hintact := p.verifies_layout
    rw [hcut] at hintact
    have hdamaged := Checksum.not_verifies_of_weight_ne hintact hlength
      (Checksum.weight_ne_of_short hlength hshort hne hup hdown front.length)
    rw [decode, hdamaged]
    rfl
  · have htake := List.prefix_iff_eq_take.1 hfront
    have hshorter : front.length < (p.layout (checksum (p.layout 0))).length :=
      Nat.lt_of_le_of_ne hfront.length_le fun h => hne (hfront.eq_of_length h)
    rw [decode]
    split_ifs
    · rw [htake, read_take hfits _ hshorter]
      exact ⟨_, rfl⟩
    · exact ⟨_, rfl⟩

/-- Two bytes of different words are changed, and the last byte is lost though it is a zero. -/
theorem damage_detected_across :
    (⟨1, 0, Flags.data, [7, 0]⟩ : Packet).payload.length ≤ 65535 ∧
    (⟨1, 0, Flags.data, [7, 0]⟩ : Packet).encode
      = .ok [0, 0, 0, 1, 0, 0, 0, 0, 0, 1, 248, 251, 0, 2, 7, 0] ∧
    decode ([0, 0, 0] ++ [0, 1] ++ [0, 0, 0, 0, 1, 248, 251, 0, 2, 7, 0]) = .error .corrupted ∧
    ∃ cause, decode [0, 0, 0, 1, 0, 0, 0, 0, 0, 1, 248, 251, 0, 2, 7] = .error cause := by
  have hfits : (⟨1, 0, Flags.data, [7, 0]⟩ : Packet).payload.length ≤ 65535 := by decide
  have hencode : (⟨1, 0, Flags.data, [7, 0]⟩ : Packet).encode
      = .ok [0, 0, 0, 1, 0, 0, 0, 0, 0, 1, 248, 251, 0, 2, 7, 0] := by cbv
  obtain ⟨bytes, hbytes, hchanged, hcut⟩ := damage_detected hfits
  obtain rfl := Except.ok.inj (hencode.symm.trans hbytes)
  exact ⟨hfits, hencode,
    hchanged [0, 0, 0] [1, 0] [0, 1] [0, 0, 0, 0, 1, 248, 251, 0, 2, 7, 0] rfl rfl (by decide)
      (by decide) (by decide) (by decide),
    hcut _ ⟨[0], rfl⟩ (by decide)⟩

end ReliableTransfer.Packet

import Mathlib.Tactic.Common
import ReliableTransfer.Packet.Codec
import ReliableTransfer.Proofs.Checksum

/-!
# Packets through their bytes

A packet that is laid out with its checksum is read back as it was.  Bytes behind it are ignored,
but they take part in the checksum: whoever is handed more than the packet takes it all the same if
the surplus adds nothing to the sum, as zeros do.

* `Packet.encode_of_fits`, `Packet.verifies_layout_iff` — the bytes of a packet, and with which
  checksum field they are intact.
* `Packet.decode_of_encode` — decoding undoes encoding.
* **`Packet.encode_round_trip`** — the whole, with what is appended.
-/

namespace ReliableTransfer.Packet

variable {p : Packet} {bytes : Bytes}

/-- The bytes of a packet whose length the header can state. -/
lemma encode_of_fits (h : p.payload.length ≤ maxEncodable) :
    p.encode = .ok (p.layout (checksum (p.layout 0))) := by
  rw [encode, if_neg (Nat.not_lt.2 h)]

lemma encode_eq_ok (h : p.encode = .ok bytes) :
    p.payload.length ≤ maxEncodable ∧ bytes = p.layout (checksum (p.layout 0)) := by
  rw [encode] at h
  split_ifs at h with hlong
  exact ⟨Nat.not_lt.1 hlong, (Except.ok.inj h).symm⟩

/-- The length the header states. -/
lemma toNat_payloadLength (h : p.payload.length ≤ maxEncodable) :
    p.payloadLength.toNat = p.payload.length := by
  rw [payloadLength, UInt16.toNat_ofNat']
  exact Nat.mod_eq_of_lt (Nat.lt_succ_of_le h)

/-- **Which checksum fields a packet is intact with**: the one it is given, and all ones if that
one is zero. -/
lemma verifies_layout_iff (p : Packet) (sum : UInt16) :
    verifies (p.layout sum) = true ↔
      sum = checksum (p.layout 0) ∨ (sum = 0xFFFF ∧ checksum (p.layout 0) = 0) := by
  -- the checksum field stands behind five words
  have hfront : (word32 p.seq ++ word32 p.ack ++ word16 p.flags).length % 2 = 0 := by
    simp [length_word32, length_word16]
  have hsum := Checksum.verifies_field_iff hfront sum (word16 p.payloadLength ++ p.payload)
  simp only [← List.append_assoc] at hsum
  exact hsum

/-- **The checksum a packet is given** is the one it is checked for. -/
lemma verifies_layout (p : Packet) : verifies (p.layout (checksum (p.layout 0))) = true :=
  (p.verifies_layout_iff _).2 (.inl rfl)

/-- What is appended to the bytes of a packet is ignored, unless it spoils the checksum. -/
lemma decode_layout_append (h : p.payload.length ≤ maxEncodable) (rest : Bytes) :
    decode (p.layout (checksum (p.layout 0)) ++ rest)
      = if Checksum.weight (headerSize + p.payload.length) rest % 65535 = 0 then .ok p
        else .error .corrupted := by
  rw [decode, read_layout p _ rest h]
  refine if_congr ?_ rfl rfl
  rw [Checksum.verifies_append p.verifies_layout, length_layout]

/-- **Decoding undoes encoding.** -/
lemma decode_of_encode (h : p.encode = .ok bytes) : decode bytes = .ok p := by
  obtain ⟨hfits, rfl⟩ := encode_eq_ok h
  have hread := decode_layout_append hfits []
  rw [List.append_nil] at hread
  exact hread.trans (if_pos rfl)

/-- **Packets come through their bytes.**  A packet whose payload has at most 65535 bytes can be
laid out, in fourteen bytes and its payload; these bytes are intact, and are read as the packet.
When others are appended the packet is still read if what they weigh where they stand is a multiple
of 65535, as it is for any number of zeros; if not, the whole is refused as corrupted.  A packet
with a longer payload cannot be laid out. -/
theorem encode_round_trip (p : Packet) :
    (p.payload.length ≤ 65535 → ∃ bytes, p.encode = .ok bytes ∧
      bytes.length = 14 + p.payload.length ∧ verifies bytes = true ∧ decode bytes = .ok p ∧
      (∀ rest, decode (bytes ++ rest)
        = if Checksum.weight bytes.length rest % 65535 = 0 then .ok p else .error .corrupted) ∧
      ∀ n, decode (bytes ++ List.replicate n 0) = .ok p) ∧
    (65535 < p.payload.length → p.encode = .error .payloadTooLong) := by
  refine ⟨fun hfits => ?_, fun hlong => if_pos hlong⟩
  have hlength := p.length_layout (checksum (p.layout 0))
  have hrest := decode_layout_append (p := p) hfits
  rw [← hlength] at hrest
  refine ⟨_, encode_of_fits hfits, hlength, p.verifies_layout,
    decode_of_encode (encode_of_fits hfits), hrest, fun n => ?_⟩
  rw [hrest, Checksum.weight_replicate_zero, if_pos rfl]

/-- Behind an odd payload the first byte that is appended is the lower half of a word: zero, and
then a word of ones, go unnoticed, and a one does not. -/
theorem encode_round_trip_odd :
    (⟨1, 0, Flags.data, [7]⟩ : Packet).payload.length ≤ 65535 ∧
    (⟨1, 0, Flags.data, [7]⟩ : Packet).encode
      = .ok [0, 0, 0, 1, 0, 0, 0, 0, 0, 1, 248, 252, 0, 1, 7] ∧
    decode ([0, 0, 0, 1, 0, 0, 0, 0, 0, 1, 248, 252, 0, 1, 7] ++ [0, 255, 255])
      = .ok ⟨1, 0, Flags.data, [7]⟩ ∧
    decode ([0, 0, 0, 1, 0, 0, 0, 0, 0, 1, 248, 252, 0, 1, 7] ++ [1]) = .error .corrupted ∧
    65535 < (⟨1, 0, Flags.data, List.replicate 65536 7⟩ : Packet).payload.length ∧
    (⟨1, 0, Flags.data, List.replicate 65536 7⟩ : Packet).encode = .error .payloadTooLong := by
  have hfits : (⟨1, 0, Flags.data, [7]⟩ : Packet).payload.length ≤ 65535 := by decide
  have hencode : (⟨1, 0, Flags.data, [7]⟩ : Packet).encode
      = .ok [0, 0, 0, 1, 0, 0, 0, 0, 0, 1, 248, 252, 0, 1, 7] := by cbv
  have hlong : 65535 < (⟨1, 0, Flags.data, List.replicate 65536 7⟩ : Packet).payload.length := by
    rw [List.length_replicate]
    decide
  obtain ⟨bytes, hbytes, _, _, _, hrest, _⟩ := (encode_round_trip _).1 hfits
  obtain rfl := Except.ok.inj (hencode.symm.trans hbytes)
  exact ⟨hfits, hencode, (hrest [0, 255, 255]).trans (if_pos (by decide)),
    (hrest [1]).trans (if_neg (by decide)), hlong, (encode_round_trip _).2 hlong⟩

end ReliableTransfer.Packet

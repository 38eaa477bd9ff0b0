import Mathlib.Data.Set.Card
import ReliableTransfer.Proofs.Packet.Encoding

/-!
# Nothing but encodings is decoded

Whatever is accepted as a packet begins with that packet laid out: reading takes every byte of the
header and the payload at its word.  Only the checksum field has some freedom.  In one's complement
zero has two forms, so where a packet is given a checksum of zeros it is accepted with all ones too.

* `Packet.read_eq_ok`, **`Packet.decode_eq_ok_iff`** — what is read and decoded as a packet.
* `Packet.StandsIn` — the fields and the payload of a packet at their places.
* `Packet.layout_of_verifies` — the one or two layouts that are intact.
* **`Packet.decode_round_trip`** — from bytes to a packet and back.
-/

namespace ReliableTransfer.Packet

variable {data : Bytes} {p : Packet}

/-- **What is read as a packet** begins with that packet, laid out with some checksum field. -/
lemma read_eq_ok (h : read data = .ok p) :
    p.payload.length ≤ maxEncodable ∧ ∃ sum rest, data = p.layout sum ++ rest := by
  unfold read at h
  split at h
  · rename_i s₀ s₁ s₂ s₃ a₀ a₁ a₂ a₃ f₀ f₁ k₀ k₁ l₀ l₁ body
    dsimp only at h
    split_ifs at h with hlong
    obtain rfl := Except.ok.inj h
    have hlength : (body.take (joinWord16 l₀ l₁).toNat).length = (joinWord16 l₀ l₁).toNat :=
      List.length_take_of_le (Nat.not_lt.1 hlong)
    refine ⟨?_, joinWord16 k₀ k₁, body.drop (joinWord16 l₀ l₁).toNat, ?_⟩
    · rw [hlength]
      exact Nat.le_of_lt_succ (joinWord16 l₀ l₁).toNat_lt
    · simp only [layout, payloadLength, hlength, UInt16.ofNat_toNat, word16_joinWord16,
        word32_joinWord32, List.take_append_drop, List.cons_append, List.nil_append]
  · cases h

/-- **What is decoded as a packet**: intact bytes that begin with it. -/
lemma decode_eq_ok_iff :
    decode data = .ok p ↔ p.payload.length ≤ maxEncodable ∧ verifies data = true ∧
      ∃ sum rest, data = p.layout sum ++ rest := by
  rw [decode]
  constructor
  · intro h
    split_ifs at h with hintact
    obtain ⟨hfits, hdata⟩ := read_eq_ok h
    exact ⟨hfits, hintact, hdata⟩
  · rintro ⟨hfits, hintact, sum, rest, rfl⟩
    rw [if_pos hintact, read_layout p sum rest hfits]

/-! ## The parts at their places -/

/-- **A packet stands at the front of some bytes**: its numbers, its flags, the length of its
payload and the payload, each at its place in the layout. -/
structure StandsIn (p : Packet) (data : Bytes) : Prop where
  seq : readWord32? data = some p.seq
  ack : readWord32? (data.drop 4) = some p.ack
  flags : readWord16? (data.drop 8) = some p.flags
  length : (readWord16? (data.drop 12)).map (·.toNat) = some p.payload.length
  payload : (data.drop 14).take p.payload.length = p.payload

lemma standsIn_layout (h : p.payload.length ≤ maxEncodable) (sum : UInt16) (rest : Bytes) :
    p.StandsIn (p.layout sum ++ rest) where
  seq := readWord32?_word32 p.seq ((p.layout sum ++ rest).drop 4)
  ack := readWord32?_word32 p.ack ((p.layout sum ++ rest).drop 8)
  flags := readWord16?_word16 p.flags ((p.layout sum ++ rest).drop 10)
  length := by
    have hread : readWord16? ((p.layout sum ++ rest).drop 12) = some p.payloadLength :=
      readWord16?_word16 p.payloadLength ((p.layout sum ++ rest).drop 14)
    rw [hread, Option.map_some, toNat_payloadLength h]
  payload := by
    have hdrop : (p.layout sum ++ rest).drop 14 = p.payload ++ rest := rfl
    rw [hdrop, List.take_left]

lemma take_layout (p : Packet) (sum : UInt16) (rest : Bytes) :
    (p.layout sum ++ rest).take (headerSize + p.payload.length) = p.layout sum :=
  List.take_left' (p.length_layout sum)

lemma drop_layout (p : Packet) (sum : UInt16) (rest : Bytes) :
    (p.layout sum ++ rest).drop (headerSize + p.payload.length) = rest :=
  List.drop_left' (p.length_layout sum)

/-! ## The two forms of zero -/

/-- **An intact layout** is the one a packet is given, or has all ones where that one has zeros. -/
lemma layout_of_verifies {sum : UInt16} (h : verifies (p.layout sum) = true) :
    p.layout sum = p.layout (checksum (p.layout 0)) ∨
      (p.layout sum = p.layout 0xFFFF ∧ p.layout (checksum (p.layout 0)) = p.layout 0) := by
  rcases (p.verifies_layout_iff sum).1 h with hsum | ⟨hones, hzero⟩
  · exact .inl (by rw [← hsum])
  · exact .inr ⟨by rw [hones], by rw [hzero]⟩

/-- Bytes of the least possible length that are decoded as a packet are one of two layouts. -/
lemma mem_pair_of_decode (h : decode data = .ok p)
    (hlength : data.length = headerSize + p.payload.length) :
    data ∈ ({p.layout (checksum (p.layout 0)), p.layout 0xFFFF} : Set Bytes) := by
  obtain ⟨_, hintact, sum, rest, rfl⟩ := decode_eq_ok_iff.1 h
  rw [List.length_append, length_layout] at hlength
  obtain rfl : rest = [] := List.eq_nil_of_length_eq_zero (by omega)
  rw [List.append_nil] at hintact ⊢
  rcases layout_of_verifies hintact with hgiven | ⟨hones, _⟩
  · exact .inl hgiven
  · exact .inr hones

/-- **From bytes to a packet and back.**  Whatever is decoded as a packet is no shorter than that
packet, and holds its fields and its payload at their places.  The packet can be laid out again; if
nothing but zeros stands behind the payload, that gives the bytes it was decoded from, except that
all ones in their checksum field may have turned into zeros.  So a packet is decoded from at most two
byte strings of its own length. -/
theorem decode_round_trip (h : decode data = .ok p) :
    ∃ bytes, p.encode = .ok bytes ∧ bytes.length = 14 + p.payload.length ∧
      bytes.length ≤ data.length ∧ p.StandsIn data ∧
      ((∀ b ∈ data.drop bytes.length, b = 0) →
        data.take bytes.length = bytes ∨
          ∃ front back, front.length = 10 ∧
            data.take bytes.length = front ++ [255, 255] ++ back ∧
            bytes = front ++ [0, 0] ++ back) ∧
      {d | decode d = .ok p ∧ d.length = bytes.length}.encard ≤ 2 := by
  obtain ⟨hfits, hintact, sum, rest, rfl⟩ := decode_eq_ok_iff.1 h
  have hlength : (p.layout (checksum (p.layout 0))).length = headerSize + p.payload.length :=
    p.length_layout _
  refine ⟨_, encode_of_fits hfits, hlength, ?_, standsIn_layout hfits sum rest, ?_, ?_⟩
  · rw [hlength, List.length_append, length_layout]
    exact Nat.le_add_right _ _
  · rw [hlength, drop_layout, take_layout]
    intro hzeros
    rw [Checksum.verifies_append_zeros _ hzeros] at hintact
    rcases layout_of_verifies hintact with hgiven | ⟨hones, hzero⟩
    · exact .inl hgiven
    · rw [hones, hzero]
      exact .inr ⟨word32 p.seq ++ word32 p.ack ++ word16 p.flags,
        word16 p.payloadLength ++ p.payload, rfl, List.append_assoc _ _ _, List.append_assoc _ _ _⟩
  · calc {d | decode d = .ok p ∧ d.length = (p.layout (checksum (p.layout 0))).length}.encard
        ≤ ({p.layout (checksum (p.layout 0)), p.layout 0xFFFF} : Set Bytes).encard :=
          Set.encard_le_encard fun d hd => mem_pair_of_decode hd.1 (hd.2.trans hlength)
      _ ≤ ({p.layout 0xFFFF} : Set Bytes).encard + 1 := Set.encard_insert_le _ _
      _ = 2 := by rw [Set.encard_singleton, one_add_one_eq_two]

/-- The words of this packet add up to all ones, so it is given a checksum of zeros; it is decoded
with all ones there, and with zeros behind it. -/
theorem decode_round_trip_ones :
    decode ([0, 0, 255, 255, 0, 0, 0, 0, 0, 0, 255, 255, 0, 0] ++ [0, 0, 0])
      = .ok ⟨65535, 0, 0, []⟩ ∧
    (⟨65535, 0, 0, []⟩ : Packet).encode = .ok [0, 0, 255, 255, 0, 0, 0, 0, 0, 0, 0, 0, 0, 0] ∧
    (∃ front back : Bytes, front.length = 10 ∧
      [0, 0, 255, 255, 0, 0, 0, 0, 0, 0, 255, 255, 0, 0] = front ++ [255, 255] ++ back ∧
      [0, 0, 255, 255, 0, 0, 0, 0, 0, 0, 0, 0, 0, 0] = front ++ [0, 0] ++ back) ∧
    {d | decode d = .ok ⟨65535, 0, 0, []⟩ ∧ d.length = 14}.encard ≤ 2 := by
  have hdecode : decode ([0, 0, 255, 255, 0, 0, 0, 0, 0, 0, 255, 255, 0, 0] ++ [0, 0, 0])
      = .ok ⟨65535, 0, 0, []⟩ := by cbv
  have hencode : (⟨65535, 0, 0, []⟩ : Packet).encode
      = .ok [0, 0, 255, 255, 0, 0, 0, 0, 0, 0, 0, 0, 0, 0] := by cbv
  obtain ⟨bytes, hbytes, _, _, _, hback, htwo⟩ := decode_round_trip hdecode
  obtain rfl := Except.ok.inj (hencode.symm.trans hbytes)
  have hzeros : ∀ b ∈ ([0, 0, 0] : Bytes), b = 0 := by simp
  rcases hback hzeros with hsame | hones
  · exact absurd hsame (by decide)
  · exact ⟨hdecode, hencode, hones, htwo⟩

end ReliableTransfer.Packet

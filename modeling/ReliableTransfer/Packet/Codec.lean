import ReliableTransfer.Checksum
import ReliableTransfer.Packet.Basic

/-!
# Packets as bytes

A packet is laid out as a header of fourteen bytes followed by its payload.  The header holds
the two numbers (four bytes each), the flags, the checksum and the payload's length (two bytes
each), all most significant byte first.  The checksum is taken over the whole layout with zero
in its own place.

* `Packet.layout` — the bytes of a packet with a given checksum field.
* **`Packet.encode`** — the bytes of a packet with its checksum; only a payload whose length
  does not fit the header is refused.
* **`Packet.decode`** — the packet in a byte string.  The checksum is looked at before anything
  else, and bytes behind the payload are ignored.
-/

namespace ReliableTransfer

/-- Why a packet cannot be laid out. -/
inductive EncodeError
  /-- The payload's length does not fit sixteen bits. -/
  | payloadTooLong
deriving DecidableEq

/-- The wording of an encoding error. -/
def EncodeError.message : EncodeError → Bytes
  | .payloadTooLong => text "srft_encode_packet: payload exceeds 65535 bytes"

/-- Why a byte string holds no packet. -/
inductive DecodeError
  /-- The bytes do not sum to all ones. -/
  | corrupted
  /-- The bytes end inside the header. -/
  | truncatedHeader (present : Nat)
  /-- The header claims a longer payload than the bytes that follow it. -/
  | truncatedPayload (claimed present : Nat)
deriving DecidableEq

/-- The wording of a decoding error. -/
def DecodeError.message : DecodeError → Bytes
  | .corrupted => text "checksum verification failed, packet is corrupted"
  | .truncatedHeader present => text "truncated packet: " ++ decimal present ++ text " bytes"
  | .truncatedPayload claimed present =>
    text "truncated payload: header claims " ++ decimal claimed ++ text " bytes, " ++
    decimal present ++ text " present"

namespace Packet

/-- The bytes in a packet's header. -/
def headerSize : Nat := 14

/-- The longest payload a header can state. -/
def maxEncodable : Nat := 65535

/-- The bytes of a packet whose checksum field holds `sum`. -/
def layout (p : Packet) (sum : UInt16) : Bytes :=
  word32 p.seq ++ word32 p.ack ++ word16 p.flags ++ word16 sum ++ word16 p.payloadLength ++
  p.payload

/-- A packet takes its header and its payload. -/
theorem length_layout (p : Packet) (sum : UInt16) :
    (p.layout sum).length = headerSize + p.payload.length := by
  simp [layout, word32, word16, headerSize]
  omega

/-- **Encoding.**  The checksum covers the layout with a zero checksum field. -/
def encode (p : Packet) : Except EncodeError Bytes :=
  if p.payload.length > maxEncodable then
    .error .payloadTooLong
  else
    .ok (p.layout (checksum (p.layout 0)))

/-- The packet whose header and payload stand at the front of `data`, whatever its checksum
field holds. -/
def read (data : Bytes) : Except DecodeError Packet :=
  match data with
  | s₀ :: s₁ :: s₂ :: s₃ :: a₀ :: a₁ :: a₂ :: a₃ :: f₀ :: f₁ :: _ :: _ :: l₀ :: l₁ :: body =>
    let claimed := (joinWord16 l₀ l₁).toNat
    if claimed > body.length then
      .error (.truncatedPayload claimed body.length)
    else
      .ok ⟨joinWord32 s₀ s₁ s₂ s₃, joinWord32 a₀ a₁ a₂ a₃, joinWord16 f₀ f₁, body.take claimed⟩
  | short => .error (.truncatedHeader short.length)

/-- Reading undoes laying out, whatever the checksum field holds and whatever follows, as long as
the header can state the payload's length. -/
theorem read_layout (p : Packet) (sum : UInt16) (rest : Bytes)
    (h : p.payload.length ≤ maxEncodable) : read (p.layout sum ++ rest) = .ok p := by
  have hlength : p.payloadLength.toNat = p.payload.length := by
    simp only [payloadLength, UInt16.toNat_ofNat']
    exact Nat.mod_eq_of_lt (Nat.lt_succ_of_le h)
  simp [layout, word32, word16, read, joinWord32_bytes, joinWord16_bytes, hlength]

/-- **Decoding.**  Bytes that fail the checksum are refused whatever else is wrong with them. -/
def decode (data : Bytes) : Except DecodeError Packet :=
  if verifies data then read data else .error .corrupted

end Packet

end ReliableTransfer

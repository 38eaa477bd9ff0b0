import ReliableTransfer.Decimal

/-!
# UDP headers

Eight bytes: two ports, the length of header and payload together, and a checksum.  The checksum
is optional over IPv4 and is left at zero.

* `Udp.build` — the header in front of a payload, or that the payload is too long.
* `Udp.Header`, `Udp.Header.parse?` — a header that was read.
-/

namespace ReliableTransfer.Udp

/-- The bytes in a header. -/
def headerSize : Nat := 8

/-- Why a header cannot be written. -/
inductive HeaderError
  /-- Header and payload together do not fit the length field. -/
  | payloadTooLarge (size : Nat)
deriving DecidableEq

/-- The wording of a header error. -/
def HeaderError.message : HeaderError → Bytes
  | .payloadTooLarge size => text "UDP payload too large: " ++ decimal size

/-- **The header** in front of a payload of `size` bytes. -/
def build (srcPort dstPort : UInt16) (size : Nat) : Except HeaderError Bytes :=
  if size > 65535 - headerSize then
    .error (.payloadTooLarge size)
  else
    .ok (word16 srcPort ++ word16 dstPort ++ word16 (UInt16.ofNat (headerSize + size)) ++ word16 0)

/-- A header that was read. -/
structure Header where
  /-- The port the datagram was sent from. -/
  srcPort : UInt16
  /-- The port it was sent to. -/
  dstPort : UInt16
  /-- The bytes in header and payload, by the header's account. -/
  length : UInt16
  /-- The checksum field, as it was found. -/
  checksum : UInt16
deriving DecidableEq

/-- **The header at the front of `data`**, if `data` is long enough to hold it. -/
def Header.parse? : Bytes → Option Header
  | s₀ :: s₁ :: d₀ :: d₁ :: l₀ :: l₁ :: k₀ :: k₁ :: _ =>
    some ⟨joinWord16 s₀ s₁, joinWord16 d₀ d₁, joinWord16 l₀ l₁, joinWord16 k₀ k₁⟩
  | _ => none

end ReliableTransfer.Udp

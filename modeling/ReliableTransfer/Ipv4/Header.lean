import ReliableTransfer.Checksum
import ReliableTransfer.Ipv4.Address

/-!
# IPv4 headers

The headers written here are twenty bytes long: no options, "don't fragment" set, 64 hops to
live, protocol UDP, identification zero, and the header's own checksum filled in.  A header that
is read may carry options; only its fixed part is taken apart, and its checksum is not looked at.

* `Ipv4.build` — the header of a datagram, or why there can be none.
* `Ipv4.Header`, `Ipv4.Header.parse?` — the fixed part of a header that was read.
-/

namespace ReliableTransfer.Ipv4

/-- The bytes in a header without options. -/
def headerSize : Nat := 20

/-- The number that stands for UDP in a header. -/
def protocolUdp : UInt8 := 17

/-- Why a header cannot be written. -/
inductive HeaderError
  /-- Header and payload together are longer than a datagram can be. -/
  | payloadTooLarge (size : Nat)
  /-- A text is not an address. -/
  | invalidAddress (address : Bytes)
deriving DecidableEq

/-- The wording of a header error.  It ends at a zero byte in the address. -/
def HeaderError.message : HeaderError → Bytes
  | .payloadTooLarge size => text "IP payload too large: " ++ decimal size
  | .invalidAddress address => text "invalid IPv4 address: " ++ untilNul address

/-- The header with a given total length and checksum field. -/
def layout (totalLength sum : UInt16) (src dst : Address) : Bytes :=
  [0x45, 0] ++ word16 totalLength ++ word16 0 ++ word16 0x4000 ++ [64, protocolUdp] ++
  word16 sum ++ src.toBytes ++ dst.toBytes

/-- The address a text denotes, or the complaint that it denotes none. -/
def address (s : Bytes) : Except HeaderError Address :=
  match Address.parse? s with
  | some a => .ok a
  | none => .error (.invalidAddress s)

/-- **The header of a datagram** whose part behind the header is `size` bytes long.  The size is
looked at first, then the source, then the destination. -/
def build (src dst : Bytes) (size : Nat) : Except HeaderError Bytes :=
  if size > 65535 - headerSize then
    .error (.payloadTooLarge size)
  else do
    let src ← address src
    let dst ← address dst
    let total := UInt16.ofNat (headerSize + size)
    return layout total (checksum (layout total 0 src dst)) src dst

/-! ## Reading -/

/-- The fixed part of a header that was read. -/
structure Header where
  /-- The version of the protocol; 4 in every header written here. -/
  version : UInt8
  /-- The bytes in the whole header, options included. -/
  headerLength : Nat
  /-- The type of service. -/
  tos : UInt8
  /-- The bytes in the datagram, by its own account. -/
  totalLength : UInt16
  /-- The identification of the datagram's fragments. -/
  identification : UInt16
  /-- The fragmentation flags and the fragment's offset. -/
  flagsFragment : UInt16
  /-- The hops the datagram may still take. -/
  ttl : UInt8
  /-- What the datagram carries. -/
  protocol : UInt8
  /-- The checksum field, as it was found. -/
  checksum : UInt16
  /-- Where the datagram comes from. -/
  src : Address
  /-- Where it goes. -/
  dst : Address
deriving DecidableEq

/-- **The fixed part of the header** at the front of `data`, if `data` is long enough to hold
it. -/
def Header.parse? : Bytes → Option Header
  | v :: tos :: t₀ :: t₁ :: i₀ :: i₁ :: f₀ :: f₁ :: ttl :: proto :: k₀ :: k₁ ::
      s₀ :: s₁ :: s₂ :: s₃ :: d₀ :: d₁ :: d₂ :: d₃ :: _ =>
    some {
      version := v / 16
      headerLength := 4 * (v % 16).toNat
      tos := tos
      totalLength := joinWord16 t₀ t₁
      identification := joinWord16 i₀ i₁
      flagsFragment := joinWord16 f₀ f₁
      ttl := ttl
      protocol := proto
      checksum := joinWord16 k₀ k₁
      src := ⟨s₀, s₁, s₂, s₃⟩
      dst := ⟨d₀, d₁, d₂, d₃⟩ }
  | _ => none

end ReliableTransfer.Ipv4

import ReliableTransfer.Proofs.Framing

/-!
# Taking a datagram apart by places and lengths

What is read from the network may be cut short, and its three lengths need not agree: how many bytes
were read, what the outer header says of itself, and what the inner one says of its payload.  To see
that none of them leads outside, the datagram is taken apart once more, by places and lengths: a byte
that is not there and a length that falls below zero are errors, and they never come up.

* `Guarded` — a computation in which such errors would show; `Guarded.byte` and `Guarded.minus` are
  the only steps that raise them.
* `Guarded.unframe` — unframing by places and lengths.
* **`Guarded.unframe_eq`** — it gives what unframing gives.
-/

namespace ReliableTransfer

/-! ## Bytes by their places -/

/-- What can go wrong when bytes are taken by their places and lengths by subtraction. -/
inductive Trespass
  /-- A byte was asked for that is not there. -/
  | outside (place : Nat)
  /-- More was taken off a length than it has. -/
  | below (length less : Nat)
deriving DecidableEq

/-- A computation that stops where it would leave the bytes it was given. -/
abbrev Guarded := Except Trespass

namespace Guarded

variable {data : Bytes} {place length less n : Nat}

lemma ok_bind {α β : Type} {a : α} {next : α → Guarded β} : Except.ok a >>= next = next a := rfl

/-- The byte at a place. -/
def byte (data : Bytes) (place : Nat) : Guarded UInt8 :=
  match data[place]? with
  | some b => .ok b
  | none => .error (.outside place)

/-- The word of two bytes at a place. -/
def word (data : Bytes) (place : Nat) : Guarded UInt16 :=
  return joinWord16 (← byte data place) (← byte data (place + 1))

/-- The address at a place. -/
def address (data : Bytes) (place : Nat) : Guarded Ipv4.Address :=
  return ⟨← byte data place, ← byte data (place + 1), ← byte data (place + 2),
    ← byte data (place + 3)⟩

/-- So many bytes from a place on. -/
def bytes (data : Bytes) (place : Nat) : Nat → Guarded Bytes
  | 0 => return []
  | n + 1 => return (← byte data place) :: (← bytes data (place + 1) n)

/-- A length without a part of it. -/
def minus (length less : Nat) : Guarded Nat :=
  if less ≤ length then .ok (length - less) else .error (.below length less)

lemma byte_eq (h : place < data.length) : byte data place = .ok data[place] := by
  rw [byte, List.getElem?_eq_getElem h]

lemma word_eq (h : place + 1 < data.length) :
    word data place = .ok (joinWord16 data[place] data[place + 1]) := by
  rw [word, byte_eq (Nat.lt_of_succ_lt h), byte_eq h]
  rfl

lemma address_eq (h : place + 3 < data.length) : address data place =
    .ok ⟨data[place], data[place + 1], data[place + 2], data[place + 3]⟩ := by
  rw [address, byte_eq (by omega), byte_eq (by omega), byte_eq (by omega), byte_eq h]
  rfl

/-- **Bytes that are all there** are those from the place on. -/
lemma bytes_eq (h : place + n ≤ data.length) :
    bytes data place n = .ok ((data.drop place).take n) := by
  induction n generalizing place with
  | zero => rfl
  | succ n ih =>
      have hplace : place < data.length := by omega
      rw [bytes, byte_eq hplace, ih (by omega), List.drop_eq_getElem_cons hplace]
      rfl

lemma minus_eq (h : less ≤ length) : minus length less = .ok (length - less) :=
  if_pos h

end Guarded

/-! ## Headers by their places -/

/-- A header that is all there has its fields at their places. -/
lemma Ipv4.Header.parse?_of_le {data : Bytes} (h : 20 ≤ data.length) :
    Ipv4.Header.parse? data = some {
      version := data[0] / 16
      headerLength := 4 * (data[0] % 16).toNat
      tos := data[1]
      totalLength := joinWord16 data[2] data[3]
      identification := joinWord16 data[4] data[5]
      flagsFragment := joinWord16 data[6] data[7]
      ttl := data[8]
      protocol := data[9]
      checksum := joinWord16 data[10] data[11]
      src := ⟨data[12], data[13], data[14], data[15]⟩
      dst := ⟨data[16], data[17], data[18], data[19]⟩ } := by
  have hdata : data = data[0] :: data[1] :: data[2] :: data[3] :: data[4] :: data[5] :: data[6] ::
      data[7] :: data[8] :: data[9] :: data[10] :: data[11] :: data[12] :: data[13] :: data[14] ::
      data[15] :: data[16] :: data[17] :: data[18] :: data[19] :: data.drop 20 := by
    simp only [List.getElem_cons_drop, List.drop_zero]
  conv_lhs => rw [hdata]
  rfl

lemma Ipv4.Header.parse?_of_lt {data : Bytes} (h : data.length < 20) :
    Ipv4.Header.parse? data = none := by
  unfold Ipv4.Header.parse?
  split
  · simp only [List.length_cons] at h
    omega
  · rfl

lemma Ipv4.Header.length_of_parse? {data : Bytes} {ip : Ipv4.Header}
    (h : Ipv4.Header.parse? data = some ip) : 20 ≤ data.length := by
  by_contra hshort
  cases h.symm.trans (Ipv4.Header.parse?_of_lt (Nat.not_le.1 hshort))

lemma Udp.Header.parse?_of_le {data : Bytes} (h : 8 ≤ data.length) :
    Udp.Header.parse? data = some ⟨joinWord16 data[0] data[1], joinWord16 data[2] data[3],
      joinWord16 data[4] data[5], joinWord16 data[6] data[7]⟩ := by
  have hdata : data = data[0] :: data[1] :: data[2] :: data[3] :: data[4] :: data[5] :: data[6] ::
      data[7] :: data.drop 8 := by simp only [List.getElem_cons_drop, List.drop_zero]
  conv_lhs => rw [hdata]
  rfl

lemma Udp.Header.parse?_of_lt {data : Bytes} (h : data.length < 8) :
    Udp.Header.parse? data = none := by
  unfold Udp.Header.parse?
  split
  · simp only [List.length_cons] at h
    omega
  · rfl

lemma Udp.Header.length_of_parse? {data : Bytes} {udp : Udp.Header}
    (h : Udp.Header.parse? data = some udp) : 8 ≤ data.length := by
  by_contra hshort
  cases h.symm.trans (Udp.Header.parse?_of_lt (Nat.not_le.1 hshort))

namespace Guarded

variable {data : Bytes} {place : Nat}

/-- The outer header at the front of so many bytes, if there are enough of them. -/
def ipv4Header (data : Bytes) (length : Nat) : Guarded (Option Ipv4.Header) :=
  if length < Ipv4.headerSize then
    return none
  else do
    let first ← byte data 0
    return some {
      version := first / 16
      headerLength := 4 * (first % 16).toNat
      tos := ← byte data 1
      totalLength := ← word data 2
      identification := ← word data 4
      flagsFragment := ← word data 6
      ttl := ← byte data 8
      protocol := ← byte data 9
      checksum := ← word data 10
      src := ← address data 12
      dst := ← address data 16 }

/-- The inner header at a place that so many bytes follow, if they are enough. -/
def udpHeader (data : Bytes) (place length : Nat) : Guarded (Option Udp.Header) :=
  if length < Udp.headerSize then
    return none
  else do
    return some ⟨← word data place, ← word data (place + 2), ← word data (place + 4),
      ← word data (place + 6)⟩

/-- How many of the bytes behind the outer header are those of the application. -/
def appLength (udp : Udp.Header) (remaining : Nat) : Guarded Nat := do
  let room ← minus remaining Udp.headerSize
  if udp.length.toNat ≥ Udp.headerSize then
    return min room (← minus udp.length.toNat Udp.headerSize)
  else
    return room

/-- What follows an outer header. -/
def behind (data : Bytes) (ip : Ipv4.Header) : Guarded (Option Datagram) := do
  let remaining ← minus data.length ip.headerLength
  match ← udpHeader data ip.headerLength remaining with
  | none => return none
  | some udp =>
    let offset := ip.headerLength + Udp.headerSize
    return some { ip, udp, offset, app := ← bytes data offset (← appLength udp remaining) }

/-- **Unframing by places and lengths.** -/
def unframe (data : Bytes) : Guarded (Option Datagram) := do
  match ← ipv4Header data data.length with
  | none => return none
  | some ip =>
    if ip.version ≠ 4 ∨ ip.protocol ≠ Ipv4.protocolUdp then
      return none
    else if ip.headerLength < Ipv4.headerSize ∨ ip.headerLength > data.length then
      return none
    else
      behind data ip

lemma ipv4Header_eq (data : Bytes) :
    ipv4Header data data.length = .ok (Ipv4.Header.parse? data) := by
  rw [ipv4Header]
  split_ifs with hshort
  · rw [Ipv4.Header.parse?_of_lt hshort]
    rfl
  · have hlong : 20 ≤ data.length := Nat.not_lt.1 hshort
    rw [Ipv4.Header.parse?_of_le hlong]
    simp only [byte_eq (show 0 < data.length by omega), byte_eq (show 1 < data.length by omega),
      byte_eq (show 8 < data.length by omega), byte_eq (show 9 < data.length by omega),
      word_eq (show 2 + 1 < data.length by omega), word_eq (show 4 + 1 < data.length by omega),
      word_eq (show 6 + 1 < data.length by omega), word_eq (show 10 + 1 < data.length by omega),
      address_eq (show 12 + 3 < data.length by omega),
      address_eq (show 16 + 3 < data.length by omega)]
    rfl

lemma udpHeader_eq (h : place ≤ data.length) :
    udpHeader data place (data.length - place) = .ok (Udp.Header.parse? (data.drop place)) := by
  rw [udpHeader, ← List.length_drop]
  split_ifs with hshort
  · rw [Udp.Header.parse?_of_lt hshort]
    rfl
  · have hlong : 8 ≤ (data.drop place).length := Nat.not_lt.1 hshort
    rw [Udp.Header.parse?_of_le hlong]
    rw [List.length_drop] at hlong
    simp only [word_eq (show place + 1 < data.length by omega),
      word_eq (show place + 2 + 1 < data.length by omega),
      word_eq (show place + 4 + 1 < data.length by omega),
      word_eq (show place + 6 + 1 < data.length by omega), List.getElem_drop]
    rfl

end Guarded

/-! ## Behind the outer header -/

lemma prefix_boundByLength (length : UInt16) (body : Bytes) : boundByLength length body <+: body := by
  rw [boundByLength]
  split_ifs
  · exact List.take_prefix _ _
  · exact List.prefix_refl body

/-- **Behind an outer header** that is accepted, everything depends on the inner one. -/
lemma unframe?_of_parse? {data : Bytes} {ip : Ipv4.Header}
    (h : Ipv4.Header.parse? data = some ip) : unframe? data =
      if (ip.version = 4 ∧ ip.protocol = Ipv4.protocolUdp) ∧ Ipv4.headerSize ≤ ip.headerLength then
        (Udp.Header.parse? (data.drop ip.headerLength)).map fun udp => {
          ip, udp
          offset := ip.headerLength + Udp.headerSize
          app := boundByLength udp.length ((data.drop ip.headerLength).drop Udp.headerSize) }
      else none := by
  ext view
  rw [unframe?_eq_some_iff]
  split_ifs with haccepted
  · simp [h, haccepted]
  · simp only [h, Option.some.injEq, iff_false]
    rintro ⟨_, _, rfl, hkind, hlength, _⟩
    exact haccepted ⟨hkind, hlength⟩

namespace Guarded

variable {data : Bytes} {ip : Ipv4.Header}

lemma appLength_eq {udp : Udp.Header} {remaining : Nat} {body : Bytes}
    (h : Udp.headerSize ≤ remaining) (hbody : body.length = remaining - Udp.headerSize) :
    appLength udp remaining = .ok (boundByLength udp.length body).length := by
  rw [appLength, minus_eq h, boundByLength]
  split_ifs with hcounts
  · simp only [minus_eq hcounts, bind, Except.bind, pure, Except.pure, List.length_take, hbody,
      Nat.min_comm]
  · rw [hbody]
    rfl

/-- Behind a header that does not reach beyond the end, the bytes of the application are all there. -/
lemma behind_eq (h : ip.headerLength ≤ data.length) :
    behind data ip = .ok ((Udp.Header.parse? (data.drop ip.headerLength)).map fun udp => {
      ip, udp
      offset := ip.headerLength + Udp.headerSize
      app := boundByLength udp.length ((data.drop ip.headerLength).drop Udp.headerSize) }) := by
  rw [behind, minus_eq h, ok_bind, udpHeader_eq h, ok_bind]
  cases hudp : Udp.Header.parse? (data.drop ip.headerLength) with
  | none => rfl
  | some udp =>
      have hroom := Udp.Header.length_of_parse? hudp
      rw [List.length_drop] at hroom
      have hbody : ((data.drop ip.headerLength).drop Udp.headerSize).length =
          data.length - ip.headerLength - Udp.headerSize := by
        rw [List.length_drop, List.length_drop]
      have hprefix := prefix_boundByLength udp.length
        ((data.drop ip.headerLength).drop Udp.headerSize)
      have hinside : ip.headerLength + Udp.headerSize + (boundByLength udp.length
          ((data.drop ip.headerLength).drop Udp.headerSize)).length ≤ data.length := by
        have hle := hprefix.length_le
        rw [hbody] at hle
        simp only [Udp.headerSize] at hle ⊢
        omega
      simp only [Option.map_some]
      rw [appLength_eq hroom hbody, ok_bind, bytes_eq hinside, ok_bind, ← List.drop_drop,
        ← List.prefix_iff_eq_take.1 hprefix]
      rfl

/-- **No step of unframing leaves the bytes it was given**, nor takes more off a length than it has:
by places and lengths it comes to the same. -/
lemma unframe_eq (data : Bytes) : unframe data = .ok (unframe? data) := by
  rw [unframe, ipv4Header_eq, ok_bind]
  cases hip : Ipv4.Header.parse? data with
  | none =>
      rw [unframe?, hip]
      rfl
  | some ip =>
      have hcases := unframe?_of_parse? hip
      by_cases hkind : ip.version = 4 ∧ ip.protocol = Ipv4.protocolUdp
      · by_cases hlong : Ipv4.headerSize ≤ ip.headerLength
        · rw [if_pos ⟨hkind, hlong⟩] at hcases
          by_cases hinside : ip.headerLength ≤ data.length
          · simp [hkind, hlong, hinside, hcases, behind_eq hinside]
          · -- a header that reaches beyond the end leaves no bytes for the inner one
            rw [List.drop_eq_nil_of_le (Nat.le_of_not_le hinside)] at hcases
            simp [hkind, hinside, hcases, Udp.Header.parse?, pure, Except.pure]
        · simp [hkind, hlong, hcases, pure, Except.pure]
      · simp [hkind, hcases, ← not_and_or, pure, Except.pure]

end Guarded

end ReliableTransfer

import Mathlib.Data.List.GetD
import ReliableTransfer.Proofs.Datagram.Places

/-!
# Taking a datagram apart stays inside it

A datagram is accepted by what its headers say, and what is found in it lies between its headers and
its end, whatever lengths they state.

* `WellFormed` — what is taken for a datagram.
* `statedHeaderLength`, `statedUdpLength` — the two lengths that a datagram states.
* `exists_headers`, `exists_view_iff` — what is taken apart is well formed, and the other way round.
* `unframe?_append`, `unframe?_of_options` — what makes no difference.
* **`unframe_within`** — the whole.
-/

namespace ReliableTransfer

/-! ## What is taken for a datagram -/

section Stated

variable {data : Bytes} {view : Datagram}

/-- The bytes in the outer header, by its own account. -/
def statedHeaderLength (data : Bytes) : Nat :=
  4 * (data.getD 0 0 % 16).toNat

/-- The bytes behind the outer header, by the inner one's account. -/
def statedUdpLength (data : Bytes) : Nat :=
  256 * (data.getD (statedHeaderLength data + 4) 0).toNat +
    (data.getD (statedHeaderLength data + 5) 0).toNat

/-- What is taken for a datagram. -/
structure WellFormed (data : Bytes) : Prop where
  /-- The fixed part of the outer header is there. -/
  header : 20 ≤ data.length
  /-- It is of the version that is understood. -/
  version : data.getD 0 0 / 16 = 4
  /-- It says that UDP is behind it. -/
  protocol : data.getD 9 0 = 17
  /-- It is as long as its fixed part, at least. -/
  headerLength : 20 ≤ statedHeaderLength data
  /-- The inner header is there. -/
  udp : statedHeaderLength data + 8 ≤ data.length

/-- The fields of an outer header by which it is accepted or not. -/
lemma Ipv4.Header.stated {ip : Ipv4.Header} (h : Ipv4.Header.parse? data = some ip) :
    20 ≤ data.length ∧ ip.version = data.getD 0 0 / 16 ∧ ip.protocol = data.getD 9 0 ∧
      ip.headerLength = statedHeaderLength data := by
  have hlength := Ipv4.Header.length_of_parse? h
  rw [Ipv4.Header.parse?_of_le hlength, Option.some.injEq] at h
  subst h
  rw [statedHeaderLength, List.getD_eq_getElem _ _ (show 0 < data.length by omega),
    List.getD_eq_getElem _ _ (show 9 < data.length by omega)]
  exact ⟨hlength, rfl, rfl, rfl⟩

/-- The length in an inner header. -/
lemma Udp.Header.stated {place : Nat} {udp : Udp.Header}
    (h : Udp.Header.parse? (data.drop place) = some udp) :
    place + 8 ≤ data.length ∧ udp.length.toNat =
      256 * (data.getD (place + 4) 0).toNat + (data.getD (place + 5) 0).toNat := by
  have hlength := Udp.Header.length_of_parse? h
  rw [Udp.Header.parse?_of_le hlength, Option.some.injEq] at h
  subst h
  rw [List.length_drop] at hlength
  rw [List.getD_eq_getElem _ _ (show place + 4 < data.length by omega),
    List.getD_eq_getElem _ _ (show place + 5 < data.length by omega)]
  refine ⟨by omega, ?_⟩
  simp only [toNat_joinWord16, List.getElem_drop]

/-- **The two headers of a datagram that is taken apart**, and the lengths they state. -/
lemma exists_headers (h : unframe? data = some view) :
    WellFormed data ∧ Ipv4.Header.parse? data = some view.ip ∧
      Udp.Header.parse? (data.drop (statedHeaderLength data)) = some view.udp ∧
      view.udp.length.toNat = statedUdpLength data ∧
      view.offset = statedHeaderLength data + 8 ∧
      view.app = boundByLength view.udp.length (data.drop view.offset) := by
  obtain ⟨ip, udp, hip, ⟨hversion, hprotocol⟩, hlong, hudp, rfl⟩ := unframe?_eq_some_iff.1 h
  obtain ⟨hheader, hversion', hprotocol', hlength⟩ := Ipv4.Header.stated hip
  obtain ⟨hinside, hcount⟩ := Udp.Header.stated hudp
  rw [hlength] at hlong hudp hinside hcount
  exact ⟨⟨hheader, hversion' ▸ hversion, hprotocol' ▸ hprotocol, hlong, hinside⟩, hip, hudp, hcount,
    by rw [hlength]; rfl, by rw [List.drop_drop]⟩

/-- **What is taken for a datagram** is well formed, and all that is. -/
lemma exists_view_iff : (∃ view, unframe? data = some view) ↔ WellFormed data := by
  constructor
  · rintro ⟨view, h⟩
    exact (exists_headers h).1
  · intro h
    obtain ⟨ip, hip⟩ : ∃ ip, Ipv4.Header.parse? data = some ip :=
      ⟨_, Ipv4.Header.parse?_of_le h.header⟩
    obtain ⟨_, hversion, hprotocol, hlength⟩ := Ipv4.Header.stated hip
    have hroom : 8 ≤ (data.drop (statedHeaderLength data)).length := by
      rw [List.length_drop]
      have hudp := h.udp
      omega
    obtain ⟨udp, hudp⟩ : ∃ udp, Udp.Header.parse? (data.drop (statedHeaderLength data)) = some udp :=
      ⟨_, Udp.Header.parse?_of_le hroom⟩
    rw [← hlength] at hudp
    exact ⟨_, unframe?_eq_some_iff.2 ⟨ip, udp, hip, ⟨hversion.trans h.version,
      hprotocol.trans h.protocol⟩, hlength ▸ h.headerLength, hudp, rfl⟩⟩

/-! ## What makes no difference -/

/-- The outer header is read from the first twenty bytes. -/
lemma Ipv4.Header.parse?_take (data : Bytes) :
    Ipv4.Header.parse? (data.take 20) = Ipv4.Header.parse? data := by
  rcases Nat.lt_or_ge data.length 20 with hshort | hlong
  · rw [List.take_of_length_le (Nat.le_of_lt hshort)]
  · have htake : 20 ≤ (data.take 20).length := by
      rw [List.length_take]
      omega
    rw [Ipv4.Header.parse?_of_le hlong, Ipv4.Header.parse?_of_le htake]
    simp only [List.getElem_take]

/-- A length that counts no more than is there cuts off whatever comes behind. -/
lemma boundByLength_append {length : UInt16} {body : Bytes} (hlow : Udp.headerSize ≤ length.toNat)
    (hhigh : length.toNat - Udp.headerSize ≤ body.length) (more : Bytes) :
    boundByLength length (body ++ more) = boundByLength length body := by
  rw [boundByLength, boundByLength, if_pos hlow, if_pos hlow, List.take_append_of_le_length hhigh]

/-- **Bytes behind a datagram** that states its length make no difference. -/
lemma unframe?_append (h : unframe? data = some view) (hlow : 8 ≤ statedUdpLength data)
    (hhigh : statedUdpLength data ≤ data.length - statedHeaderLength data) (more : Bytes) :
    unframe? (data ++ more) = some view := by
  obtain ⟨hwell, _, _, hlength, _⟩ := exists_headers h
  obtain ⟨ip, udp, hip, hkind, hlong, hudp, rfl⟩ := unframe?_eq_some_iff.1 h
  obtain ⟨_, _, _, hheader⟩ := Ipv4.Header.stated hip
  have hinside := hwell.udp
  simp only at hlength
  rw [← hlength] at hlow hhigh
  rw [← hheader] at hhigh hinside
  have hdrop : (data ++ more).drop ip.headerLength = data.drop ip.headerLength ++ more :=
    List.drop_append_of_le_length (Nat.le_of_add_right_le hinside)
  have hroom : Udp.headerSize ≤ (data.drop ip.headerLength).length := by
    rw [List.length_drop]
    exact Nat.le_sub_of_add_le' hinside
  refine unframe?_eq_some_iff.2 ⟨ip, udp, Ipv4.parse?_append hip more, hkind, hlong, ?_, ?_⟩
  · rw [hdrop]
    exact Udp.parse?_append hudp more
  · rw [hdrop, List.drop_append_of_le_length hroom, boundByLength_append hlow]
    rw [List.length_drop, List.length_drop]
    exact Nat.sub_le_sub_right hhigh Udp.headerSize

/-- **Options of the outer header** make no difference. -/
lemma unframe?_of_options (h : unframe? data = some view) {other : Bytes}
    (hfront : other.take 20 = data.take 20)
    (hrest : other.drop (statedHeaderLength data) = data.drop (statedHeaderLength data)) :
    unframe? other = some view := by
  obtain ⟨ip, udp, hip, hkind, hlong, hudp, rfl⟩ := unframe?_eq_some_iff.1 h
  obtain ⟨_, _, _, hheader⟩ := Ipv4.Header.stated hip
  rw [← hheader] at hrest
  have hip' : Ipv4.Header.parse? other = some ip := by
    rw [← Ipv4.Header.parse?_take, hfront, Ipv4.Header.parse?_take, hip]
  exact unframe?_eq_some_iff.2 ⟨ip, udp, hip', hkind, hlong, hrest ▸ hudp, by rw [hrest]⟩

end Stated

/-- **Unframing stays inside what was read.**  By places and lengths it gives a result for any bytes
and never leaves them.  There is a view just of what is well formed; it starts behind both headers and
ends where the bytes end or before, where the inner header says so.  A datagram that states its length
may have anything behind it, and its outer header any options. -/
theorem unframe_within (data : Bytes) :
    Guarded.unframe data = .ok (unframe? data) ∧
    ((∃ view, unframe? data = some view) ↔ WellFormed data) ∧
    ∀ view, unframe? data = some view →
      view.offset = statedHeaderLength data + 8 ∧
      view.offset + view.app.length ≤ data.length ∧
      view.app = (if 8 ≤ statedUdpLength data then
          (data.drop view.offset).take (statedUdpLength data - 8)
        else data.drop view.offset) ∧
      (8 ≤ statedUdpLength data →
        statedUdpLength data ≤ data.length - statedHeaderLength data →
          ∀ more, unframe? (data ++ more) = some view) ∧
      ∀ other, other.take 20 = data.take 20 →
        other.drop (statedHeaderLength data) = data.drop (statedHeaderLength data) →
          unframe? other = some view := by
  refine ⟨Guarded.unframe_eq data, exists_view_iff, fun view h => ?_⟩
  obtain ⟨hwell, _, _, hlength, hoffset, happ⟩ := exists_headers h
  refine ⟨hoffset, ?_, ?_, unframe?_append h, fun _ => unframe?_of_options h⟩
  · have hle := (prefix_boundByLength view.udp.length (data.drop view.offset)).length_le
    have hinside := hwell.udp
    rw [← happ, List.length_drop] at hle
    omega
  · rw [← hlength]
    exact happ

/-- Two bytes behind a header with four bytes of options, and padding behind them: with other options
and more padding they are found just the same. -/
theorem unframe_within_options :
    ∃ view, unframe? ([70, 0, 0, 34, 0, 0, 64, 0, 64, 17, 0, 0, 10, 0, 0, 1, 10, 0, 0, 2, 1, 1, 1, 0,
        48, 57, 48, 58, 0, 10, 0, 0, 1, 2] ++ [0, 0]) = some view ∧
      view.offset = 32 ∧ view.app = [1, 2] ∧
      unframe? ([70, 0, 0, 34, 0, 0, 64, 0, 64, 17, 0, 0, 10, 0, 0, 1, 10, 0, 0, 2, 1, 1, 1, 0,
        48, 57, 48, 58, 0, 10, 0, 0, 1, 2] ++ [0, 0] ++ [255]) = some view ∧
      unframe? ([70, 0, 0, 34, 0, 0, 64, 0, 64, 17, 0, 0, 10, 0, 0, 1, 10, 0, 0, 2, 7, 4, 4, 255,
        48, 57, 48, 58, 0, 10, 0, 0, 1, 2] ++ [0, 0]) = some view := by
  obtain ⟨_, hview, hparts⟩ := unframe_within ([70, 0, 0, 34, 0, 0, 64, 0, 64, 17, 0, 0, 10, 0, 0, 1,
    10, 0, 0, 2, 1, 1, 1, 0, 48, 57, 48, 58, 0, 10, 0, 0, 1, 2] ++ [0, 0])
  obtain ⟨view, h⟩ := hview.2 ⟨by decide, by decide, by decide, by decide, by decide⟩
  obtain ⟨hoffset, _, happ, hmore, hother⟩ := hparts view h
  have hstart : view.offset = 32 := hoffset.trans (by decide)
  rw [hstart] at happ
  exact ⟨view, h, hstart, happ.trans (by decide), hmore (by decide) (by decide) [255],
    hother _ (by decide) (by decide)⟩

end ReliableTransfer

import ReliableTransfer.Proofs.Window.Numbering

/-!
# What a sender holds of what it was given

A sender was given some items so far, and acknowledgements with any numbers whatever have come
in between.  This file says what its state is then, and that every operation keeps it so.

* `Sender.Draws` — whatever is in flight is a packet of one of the items.  This holds without end.
* **`Sender.Carries`** — base, next number and packets in flight fit together: the packets in
  flight are exactly those from the base on.  This needs numbers that do not run out.
* `Sender.Carries.pairwise_numbers`, `Sender.Carries.mem_map_filter` — the numbers in flight ascend,
  and a packet is found by its number.
* `Sender.Carries.send`, `Sender.Carries.acknowledge`, `Sender.Carries.scan` — the operations.
* `Sender.Carries.toNat_base_acknowledge` — where an acknowledgement moves the base.
-/

namespace ReliableTransfer

namespace Unacked

/-- A record whose number is above all others goes to the end. -/
lemma insert_eq_append {r : Unacked} {records : List Unacked} (h : ∀ x ∈ records, x.seq < r.seq) :
    insert r records = records ++ [r] := by
  induction records with
  | nil => rfl
  | cons head rest ih =>
      have hhead : head.seq < r.seq := h head List.mem_cons_self
      have hlt : ¬ r.seq < head.seq := UInt32.lt_asymm hhead
      have hne : r.seq ≠ head.seq := (UInt32.ne_of_lt hhead).symm
      rw [insert, if_neg hlt, if_neg hne, ih fun x hx => h x (List.mem_cons_of_mem head hx),
        List.cons_append]

/-- An insertion brings in nothing but the new record. -/
lemma mem_of_mem_insert {r x : Unacked} {records : List Unacked} (h : x ∈ insert r records) :
    x = r ∨ x ∈ records := by
  induction records with
  | nil => exact .inl (List.mem_singleton.1 h)
  | cons head rest ih =>
      rw [insert] at h
      split_ifs at h
      · exact List.mem_cons.1 h
      · exact .inr h
      · rcases List.mem_cons.1 h with rfl | h
        · exact .inr List.mem_cons_self
        · exact (ih h).imp_right (List.mem_cons_of_mem head)

/-- What is in flight stays there when a packet is added. -/
lemma mem_insert_of_mem (r : Unacked) {x : Unacked} {records : List Unacked} (h : x ∈ records) :
    x ∈ insert r records := by
  induction records with
  | nil => cases h
  | cons head rest ih =>
      rw [insert]
      split_ifs
      · exact List.mem_cons_of_mem r h
      · exact h
      · rcases List.mem_cons.1 h with rfl | h
        · exact List.mem_cons_self
        · exact List.mem_cons_of_mem head (ih h)

end Unacked

namespace Sender

variable {settings : Settings} {items : List Item} {w : Sender}

/-- All fresh senders are the same. -/
lemma eq_of_create (h : create settings = .ok w) : w = {} := by
  rw [create] at h
  split_ifs at h
  exact (Except.ok.inj h).symm

/-- Scanning one packet after the other leaves all of them as they are. -/
lemma map_packet_scan (settings : Settings) (now : Int) (w : Sender) :
    (w.scan settings now).1.inFlight.map Unacked.packet = w.inFlight.map Unacked.packet := by
  simp [scan, Function.comp_def, Unacked.packet_scan]

/-! ## What is in flight was given -/

/-- Whatever is in flight is a packet of one of the items, and the next number is the one behind
them.  Numbers may have begun anew in between. -/
structure Draws (items : List Item) (w : Sender) : Prop where
  next_eq : w.next = UInt32.ofNat items.length
  mem : ∀ r ∈ w.inFlight, r.packet ∈ numbered items

namespace Draws

lemma create (h : Sender.create settings = .ok w) : Draws [] w := by
  rw [eq_of_create h]
  exact ⟨rfl, fun r hr => absurd hr List.not_mem_nil⟩

lemma send (h : Draws items w) (now : Int) (payload : Bytes) (flags : Flags) :
    Draws (items ++ [(payload, flags)]) (w.send now payload flags).1 := by
  constructor
  · rw [List.length_append, List.length_singleton, UInt32.ofNat_add, ← h.next_eq]
    rfl
  · intro r hr
    rcases Unacked.mem_of_mem_insert hr with rfl | hr
    · rw [numbered_concat, ← h.next_eq]
      exact List.mem_append_right _ (List.mem_singleton.2 rfl)
    · exact numbered_subset_append items _ (h.mem r hr)

/-- What a send hands to the link is the packet of the new item. -/
lemma packet_eq (h : Draws items w) (payload : Bytes) (flags : Flags) :
    w.packet payload flags = ⟨UInt32.ofNat items.length, 0, flags, payload⟩ := by
  rw [Sender.packet, h.next_eq]

lemma acknowledge (h : Draws items w) (number : UInt32) : Draws items (w.acknowledge number) :=
  ⟨h.next_eq, fun r hr => h.mem r (List.mem_of_mem_filter hr)⟩

lemma scan (h : Draws items w) (now : Int) : Draws items (w.scan settings now).1 := by
  refine ⟨h.next_eq, fun r hr => ?_⟩
  have hpacket := List.mem_map_of_mem (f := Unacked.packet) hr
  rw [map_packet_scan] at hpacket
  obtain ⟨x, hx, hxr⟩ := List.mem_map.1 hpacket
  rw [← hxr]
  exact h.mem x hx

lemma stop (h : Draws items w) : Draws items w.stop :=
  ⟨h.next_eq, h.mem⟩

end Draws

/-! ## What is in flight is exactly what is not acknowledged -/

/-- **The sender carries `items`**: it has numbered all of them, and the packets in flight are
exactly those from the base on, in order. -/
structure Carries (items : List Item) (w : Sender) : Prop where
  next_eq : w.next.toNat = items.length
  base_le : w.base.toNat ≤ items.length
  packets_eq : w.inFlight.map Unacked.packet = (numbered items).drop w.base.toNat
  packetsSent_eq : w.packetsSent = items.length

namespace Carries

lemma create (h : Sender.create settings = .ok w) : Carries [] w := by
  rw [eq_of_create h]
  exact ⟨rfl, Nat.le_refl 0, rfl, rfl⟩

lemma length_lt (h : Carries items w) : items.length < 4294967296 := by
  have hnext := w.next.toNat_lt
  have heq := h.next_eq
  omega

lemma packet_mem (h : Carries items w) {r : Unacked} (hr : r ∈ w.inFlight) :
    r.packet ∈ numbered items := by
  have hpacket : r.packet ∈ (numbered items).drop w.base.toNat :=
    h.packets_eq ▸ List.mem_map_of_mem hr
  exact List.mem_of_mem_drop hpacket

/-- Carrying is more than drawing. -/
lemma draws (h : Carries items w) : Draws items w :=
  ⟨by rw [← h.next_eq, UInt32.ofNat_toNat], fun _ hr => h.packet_mem hr⟩

/-- The numbers in flight are consecutive, from the base up to the next number. -/
lemma numbers_eq (h : Carries items w) :
    w.numbers.map UInt32.toNat
      = List.range' w.base.toNat (w.next.toNat - w.base.toNat) := by
  have hlength := h.length_lt
  have hbase := h.base_le
  calc w.numbers.map UInt32.toNat
      = (w.inFlight.map Unacked.packet).map (·.seq.toNat) := by
        simp [numbers, Function.comp_def, Unacked.seq]
    _ = (numberedFrom (0 + w.base.toNat) (items.drop w.base.toNat)).map (·.seq.toNat) := by
        rw [h.packets_eq, numbered, drop_numberedFrom]
    _ = List.range' (0 + w.base.toNat) (items.drop w.base.toNat).length :=
        map_seq_numberedFrom (by rw [List.length_drop]; omega)
    _ = List.range' w.base.toNat (w.next.toNat - w.base.toNat) := by
        rw [Nat.zero_add, List.length_drop, h.next_eq]

/-- A number is in flight if it lies between base and next number, and only then. -/
lemma mem_numbers (h : Carries items w) {seq : UInt32} :
    seq ∈ w.numbers ↔ w.base.toNat ≤ seq.toNat ∧ seq.toNat < items.length := by
  have hmem : seq ∈ w.numbers ↔ seq.toNat ∈ w.numbers.map UInt32.toNat :=
    (List.mem_map_of_injective fun _ _ => UInt32.toNat_inj.1).symm
  have hbase := h.base_le
  rw [hmem, h.numbers_eq, h.next_eq, List.mem_range'_1]
  omega

lemma nodup_numbers (h : Carries items w) : w.numbers.Nodup :=
  List.Nodup.of_map UInt32.toNat (h.numbers_eq ▸ List.nodup_range')

/-- Numbers in flight ascend. -/
lemma pairwise_numbers (h : Carries items w) : w.numbers.Pairwise (· < ·) := by
  have hsorted : (w.numbers.map UInt32.toNat).Pairwise (· < ·) :=
    h.numbers_eq ▸ List.pairwise_lt_range'
  exact (List.pairwise_map.1 hsorted).imp UInt32.lt_iff_toNat_lt.2

/-- A number stands for one packet in flight only, so it is among those picked out if that packet
is. -/
lemma mem_map_filter (h : Carries items w) {picked : Unacked → Bool} {r : Unacked}
    (hr : r ∈ w.inFlight) :
    r.seq ∈ (w.inFlight.filter picked).map Unacked.seq ↔ picked r = true := by
  rw [List.mem_map]
  constructor
  · rintro ⟨x, hx, hseq⟩
    obtain ⟨hmem, hpicked⟩ := List.mem_filter.1 hx
    rwa [← List.inj_on_of_nodup_map h.nodup_numbers hmem hr hseq]
  · exact fun hpicked => ⟨r, List.mem_filter.2 ⟨hr, hpicked⟩, rfl⟩

lemma length_inFlight (h : Carries items w) :
    w.inFlight.length = w.next.toNat - w.base.toNat := by
  have hlength := congrArg List.length h.packets_eq
  rw [List.length_map, List.length_drop, numbered, length_numberedFrom] at hlength
  rw [hlength, h.next_eq]

/-- The record under a number holds the packet of the item with that index. -/
lemma exists_item (h : Carries items w) {r : Unacked} (hr : r ∈ w.inFlight) :
    ∃ payload flags, items[r.seq.toNat]? = some (payload, flags) ∧
      r.packet = ⟨r.seq, 0, flags, payload⟩ := by
  obtain ⟨payload, flags, hitem, hp⟩ := exists_item_of_mem_numbered h.length_lt (h.packet_mem hr)
  exact ⟨payload, flags, hitem, hp⟩

lemma allAcked_iff (h : Carries items w) : w.allAcked = true ↔ w.base = w.next := by
  have hlength := h.length_inFlight
  have hnext := h.next_eq
  have hbase := h.base_le
  rw [allAcked, List.isEmpty_iff_length_eq_zero, hlength, ← UInt32.toNat_inj]
  omega

lemma send (h : Carries items w) (hlength : items.length + 1 < 4294967296) (now : Int)
    (payload : Bytes) (flags : Flags) :
    Carries (items ++ [(payload, flags)]) (w.send now payload flags).1 := by
  have hnext := h.next_eq
  have hbase := h.base_le
  -- the new number is above all that are in flight, so its packet goes to the end
  have habove : ∀ x ∈ w.inFlight, x.seq < w.next := by
    intro x hx
    have hx' : x.seq ∈ w.numbers := List.mem_map_of_mem hx
    rw [UInt32.lt_iff_toNat_lt, hnext]
    exact (h.mem_numbers.1 hx').2
  have hnew : (⟨UInt32.ofNat items.length, 0, flags, payload⟩ : Packet)
      = w.packet payload flags := by
    rw [Sender.packet, ← hnext, UInt32.ofNat_toNat]
  constructor
  · rw [Sender.send, List.length_append, UInt32.toNat_add, hnext, List.length_singleton]
    simp only [UInt32.toNat_one]
    omega
  · rw [List.length_append]
    exact Nat.le_add_right_of_le hbase
  · simp only [Sender.send]
    rw [Unacked.insert_eq_append habove, List.map_append, h.packets_eq, numbered_concat, hnew,
      List.drop_append_of_le_length (by rwa [numbered, length_numberedFrom])]
    rfl
  · simp [Sender.send, h.packetsSent_eq]

/-- An acknowledgement moves the base behind its number, but never back and never past what was
sent. -/
lemma toNat_base_acknowledge (h : Carries items w) (number : UInt32) :
    (w.acknowledge number).base.toNat
      = max w.base.toNat (min (number.toNat + 1) items.length) := by
  have hnext := h.next_eq
  have hbase := h.base_le
  have hlength := h.length_lt
  simp only [Sender.acknowledge, UInt32.lt_iff_toNat_lt]
  split_ifs
  · omega
  · rw [UInt32.toNat_add, UInt32.toNat_one]
    omega
  · omega

lemma acknowledge (h : Carries items w) (number : UInt32) :
    Carries items (w.acknowledge number) := by
  have hbase := h.base_le
  have hlength := h.length_lt
  refine ⟨h.next_eq, ?_, ?_, h.packetsSent_eq⟩
  · rw [h.toNat_base_acknowledge]
    omega
  · have hfilter : (w.acknowledge number).inFlight.map Unacked.packet
        = (w.inFlight.map Unacked.packet).filter (number < ·.seq) := by
      rw [List.filter_map]
      rfl
    rw [hfilter, h.packets_eq, filter_drop_numbered (Nat.le_of_lt hlength) hbase,
      h.toNat_base_acknowledge]
    -- a number beyond all that were sent drops as much as the last of them
    rcases Nat.le_total (number.toNat + 1) items.length with hle | hle
    · rw [Nat.min_eq_left hle]
    · rw [Nat.min_eq_right hle, List.drop_of_length_le, List.drop_of_length_le] <;>
        rw [numbered, length_numberedFrom] <;> omega

lemma scan (h : Carries items w) (now : Int) : Carries items (w.scan settings now).1 :=
  ⟨h.next_eq, h.base_le, (map_packet_scan settings now w).trans h.packets_eq, h.packetsSent_eq⟩

lemma stop (h : Carries items w) : Carries items w.stop :=
  ⟨h.next_eq, h.base_le, h.packets_eq, h.packetsSent_eq⟩

end Carries

end Sender

end ReliableTransfer

import Mathlib.Data.List.Nodup
import Mathlib.Tactic.Common
import ReliableTransfer.Window.Sender

/-!
# Numbered packets

A sender numbers what it is given from zero on, in the order in which it is given.  This file
lays out the packets that come of it as one list, and says what the numbers in that list are.

* `Item` — a payload with its flags.
* **`numbered`** — the packets that carry a list of items.
* `filter_numberedFrom` — numbers ascend, so dropping all numbers up to some `n` is dropping a
  front part of the list.  Cumulative acknowledgements rest on this.

A number has 32 bits, and only the first 4294967296 items have numbers of their own.
-/

namespace ReliableTransfer

/-- What a sender is given at a time: a payload, and the flags it goes with. -/
abbrev Item := Bytes × Flags

/-- The packets that carry `items`, numbered from `first` on. -/
def numberedFrom : Nat → List Item → List Packet
  | _, [] => []
  | first, (payload, flags) :: rest =>
    ⟨UInt32.ofNat first, 0, flags, payload⟩ :: numberedFrom (first + 1) rest

/-- **The packets that carry `items`**, numbered from zero on. -/
def numbered (items : List Item) : List Packet :=
  numberedFrom 0 items

@[simp] lemma length_numberedFrom (first : Nat) (items : List Item) :
    (numberedFrom first items).length = items.length := by
  induction items generalizing first with
  | nil => rfl
  | cons item rest ih => simp [numberedFrom, ih]

lemma numberedFrom_append (first : Nat) (items more : List Item) :
    numberedFrom first (items ++ more)
      = numberedFrom first items ++ numberedFrom (first + items.length) more := by
  induction items generalizing first with
  | nil => rfl
  | cons item rest ih =>
      rw [List.cons_append, numberedFrom, ih, numberedFrom, List.cons_append, List.length_cons]
      rw [show first + 1 + rest.length = first + (rest.length + 1) by omega]

/-- Giving one item more adds one packet, with the next number. -/
lemma numbered_concat (items : List Item) (payload : Bytes) (flags : Flags) :
    numbered (items ++ [(payload, flags)])
      = numbered items ++ [⟨UInt32.ofNat items.length, 0, flags, payload⟩] := by
  rw [numbered, numberedFrom_append, Nat.zero_add]
  rfl

lemma getElem?_numberedFrom (first : Nat) (items : List Item) (i : Nat) :
    (numberedFrom first items)[i]?
      = items[i]?.map fun item => ⟨UInt32.ofNat (first + i), 0, item.2, item.1⟩ := by
  induction items generalizing first i with
  | nil => rfl
  | cons item rest ih =>
      cases i with
      | zero => rfl
      | succ i =>
          rw [numberedFrom, List.getElem?_cons_succ, List.getElem?_cons_succ, ih]
          rw [show first + 1 + i = first + (i + 1) by omega]

lemma drop_numberedFrom (first n : Nat) (items : List Item) :
    (numberedFrom first items).drop n = numberedFrom (first + n) (items.drop n) := by
  induction n generalizing first items with
  | zero => rfl
  | succ n ih =>
      cases items with
      | nil => rfl
      | cons item rest =>
          rw [numberedFrom, List.drop_succ_cons, List.drop_succ_cons, ih]
          rw [show first + 1 + n = first + (n + 1) by omega]

/-- The packet with index `i` carries item `i` under the number `i`. -/
lemma mem_numbered {items : List Item} {p : Packet} :
    p ∈ numbered items ↔
      ∃ i item, items[i]? = some item ∧ p = ⟨UInt32.ofNat i, 0, item.2, item.1⟩ := by
  rw [List.mem_iff_getElem?]
  simp only [numbered, getElem?_numberedFrom, Nat.zero_add, Option.map_eq_some_iff]
  constructor
  · rintro ⟨i, item, hitem, rfl⟩
    exact ⟨i, item, hitem, rfl⟩
  · rintro ⟨i, item, hitem, rfl⟩
    exact ⟨i, item, hitem, rfl⟩

/-- What was numbered stays numbered when more items are given. -/
lemma numbered_subset_append (items more : List Item) :
    numbered items ⊆ numbered (items ++ more) := by
  intro p hp
  rw [numbered, numberedFrom_append]
  exact List.mem_append_left _ hp

/-- The packets of the first items are the first packets. -/
lemma take_numbered_take {items : List Item} {m n : Nat} (hn : n ≤ (items.take m).length) :
    (numbered (items.take m)).take n = (numbered items).take n := by
  conv_rhs => rw [← List.take_append_drop m items]
  rw [numbered, numbered, numberedFrom_append, List.take_append_of_le_length]
  rw [length_numberedFrom]
  exact hn

/-! ## The numbers in a list -/

lemma toNat_ofNat_of_lt {n : Nat} (h : n < 4294967296) : (UInt32.ofNat n).toNat = n := by
  rw [UInt32.toNat_ofNat']
  omega

/-- Numbers come round: behind any number of full laps they are the same. -/
lemma ofNat_lap {lap : Nat} (hlap : lap % 4294967296 = 0) (n : Nat) :
    UInt32.ofNat (lap + n) = UInt32.ofNat n := by
  rw [← UInt32.toNat_inj, UInt32.toNat_ofNat', UInt32.toNat_ofNat']
  omega

/-- Packets are numbered in a later lap as they are in the first. -/
lemma numberedFrom_lap {lap : Nat} (hlap : lap % 4294967296 = 0) (first : Nat)
    (items : List Item) : numberedFrom (lap + first) items = numberedFrom first items := by
  induction items generalizing first with
  | nil => rfl
  | cons item rest ih => rw [numberedFrom, numberedFrom, ofNat_lap hlap, Nat.add_assoc, ih]

/-- As long as numbers last, a packet's number is the index of its item. -/
lemma exists_item_of_mem_numbered {items : List Item} (h : items.length < 4294967296)
    {p : Packet} (hp : p ∈ numbered items) :
    ∃ payload flags, items[p.seq.toNat]? = some (payload, flags) ∧
      p = ⟨p.seq, 0, flags, payload⟩ := by
  obtain ⟨i, ⟨payload, flags⟩, hitem, rfl⟩ := mem_numbered.1 hp
  have hi : i < items.length := (List.getElem?_eq_some_iff.1 hitem).1
  refine ⟨payload, flags, ?_, rfl⟩
  rw [toNat_ofNat_of_lt (by omega), hitem]

/-- The numbers are consecutive. -/
lemma map_seq_numberedFrom {first : Nat} {items : List Item}
    (h : first + items.length ≤ 4294967296) :
    (numberedFrom first items).map (·.seq.toNat) = List.range' first items.length := by
  induction items generalizing first with
  | nil => rfl
  | cons item rest ih =>
      rw [List.length_cons] at h
      rw [numberedFrom, List.map_cons, ih (by omega), List.length_cons, List.range'_succ,
        toNat_ofNat_of_lt (by omega)]

/-- **Dropping by number.**  The packets with a number above `n` are those behind the first
`n + 1 - first`. -/
lemma filter_numberedFrom {first : Nat} {items : List Item}
    (h : first + items.length ≤ 4294967296) (n : UInt32) :
    (numberedFrom first items).filter (n < ·.seq)
      = (numberedFrom first items).drop (n.toNat + 1 - first) := by
  induction items generalizing first with
  | nil => simp [numberedFrom]
  | cons item rest ih =>
      rw [List.length_cons] at h
      have hseq : (UInt32.ofNat first).toNat = first := toNat_ofNat_of_lt (by omega)
      rw [numberedFrom, List.filter_cons, ih (by omega)]
      by_cases hn : n.toNat < first
      · -- the head stays, and so does everything behind it
        rw [if_pos (by simpa [UInt32.lt_iff_toNat_lt, hseq] using hn),
          show n.toNat + 1 - first = 0 by omega, show n.toNat + 1 - (first + 1) = 0 by omega]
        rfl
      · rw [if_neg (by simpa [UInt32.lt_iff_toNat_lt, hseq] using hn),
          show n.toNat + 1 - first = n.toNat + 1 - (first + 1) + 1 by omega, List.drop_succ_cons]

/-- Among the packets from number `m` on, those above `n` are the packets from the larger of `m`
and `n + 1` on. -/
lemma filter_drop_numbered {items : List Item} (h : items.length ≤ 4294967296) {m : Nat}
    (hm : m ≤ items.length) (n : UInt32) :
    ((numbered items).drop m).filter (n < ·.seq)
      = (numbered items).drop (max m (n.toNat + 1)) := by
  have hlength : 0 + m + (items.drop m).length ≤ 4294967296 := by
    rw [List.length_drop]
    omega
  rw [numbered, drop_numberedFrom, filter_numberedFrom hlength, ← drop_numberedFrom,
    List.drop_drop]
  congr 1
  omega

end ReliableTransfer

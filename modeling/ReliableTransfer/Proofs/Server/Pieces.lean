import Mathlib.Tactic.Common
import ReliableTransfer.Proofs.Window.Delivery
import ReliableTransfer.Server.Feed

/-!
# The packets of a file

A file that is cut into pieces of one size has as many of them as it takes, and each stands at the
place where its number says.  So a packet of the file can be told by its number alone.

* `Source.bytes?` — the bytes of what is sent, unless it never ends.
* `pieceCount`, `pieceAt` — how many pieces there are, and what they hold.
* **`IsPacketOf`** — a packet that belongs to a file.
* `isPacketOf_of_mem_numbered` — the packets a file is sent as belong to it.
-/

namespace ReliableTransfer

/-- The bytes that lie ahead, unless they never end. -/
def Feed.bytes? : Feed → Option Bytes
  | pieces rest => some rest.flatten
  | endless _ => none

/-- The bytes of a source that are sent in pieces of `size` bytes, unless they never end.  Of a
source that fails these are the pieces that were read whole. -/
def Source.bytes? (size : Nat) : Source → Option Bytes
  | content bytes => some bytes
  | failing bytes => some (wholePieces size bytes)
  | zeros => none

lemma Source.bytes?_feed {size : Nat} (hsize : 1 ≤ size) (source : Source) :
    (source.feed size).bytes? = source.bytes? size := by
  have hne : size ≠ 0 := Nat.ne_of_gt hsize
  cases source with
  | content bytes => exact congrArg some (flatten_chunks hne bytes)
  | failing bytes => exact congrArg some (flatten_chunks hne (wholePieces size bytes))
  | zeros => rw [Source.feed, if_neg hne]; rfl

/-- A source that ends is sent as the pieces of its bytes. -/
lemma Source.feed_eq {size : Nat} {source : Source} {bytes : Bytes}
    (hbytes : source.bytes? size = some bytes) : source.feed size = .pieces (chunks size bytes) := by
  cases source with
  | content content => rw [Option.some.inj hbytes]; rfl
  | failing readable => rw [← Option.some.inj hbytes]; rfl
  | zeros => cases hbytes

/-! ## Pieces by number -/

/-- How many pieces a byte string makes. -/
def pieceCount (size : Nat) (bytes : Bytes) : Nat :=
  (bytes.length + (size - 1)) / size

/-- The piece with a number. -/
def pieceAt (size : Nat) (bytes : Bytes) (i : Nat) : Bytes :=
  (bytes.drop (i * size)).take size

section Chunks

variable {size : Nat}

lemma length_chunks (hsize : 1 ≤ size) (bytes : Bytes) :
    (chunks size bytes).length = pieceCount size bytes := by
  fun_induction chunks size bytes with
  | case1 bytes h =>
      obtain rfl : bytes = [] := h.resolve_left (Nat.ne_of_gt hsize)
      exact (Nat.div_eq_of_lt (by simpa using Nat.sub_lt hsize Nat.one_pos)).symm
  | case2 bytes h ih =>
      have hlength : bytes.length ≠ 0 := fun e => h (.inr (List.eq_nil_of_length_eq_zero e))
      rw [List.length_cons, ih, pieceCount, pieceCount, List.length_drop]
      rcases Nat.lt_or_ge bytes.length size with hshort | hlong
      · -- the last piece takes all that is left
        have hlast : (bytes.length + (size - 1)) / size = 1 :=
          Nat.div_eq_of_lt_le (by omega) (by omega)
        rw [hlast, Nat.sub_eq_zero_of_le (Nat.le_of_lt hshort), Nat.div_eq_of_lt (by omega)]
      · rw [← Nat.add_div_right _ hsize]
        congr 1
        omega

lemma getElem?_chunks {bytes piece : Bytes} {i : Nat}
    (h : (chunks size bytes)[i]? = some piece) : piece = pieceAt size bytes i := by
  fun_induction chunks size bytes generalizing i with
  | case1 bytes h' => cases h
  | case2 bytes h' ih =>
      cases i with
      | zero =>
          rw [pieceAt, Nat.zero_mul, List.drop_zero]
          exact (Option.some.inj h).symm
      | succ i =>
          rw [ih h, pieceAt, pieceAt, List.drop_drop, Nat.succ_mul, Nat.add_comm size]

/-- All pieces but the last are of full size. -/
lemma length_pieceAt {bytes : Bytes} {i : Nat} (h : i + 1 < pieceCount size bytes) :
    (pieceAt size bytes i).length = size := by
  have hsize : 0 < size := by
    rcases Nat.eq_zero_or_pos size with rfl | hpos
    · rw [pieceCount, Nat.div_zero] at h
      omega
    · exact hpos
  have hfull : (i + 2) * size ≤ bytes.length + (size - 1) := (Nat.le_div_iff_mul_le hsize).1 h
  rw [Nat.add_mul] at hfull
  rw [pieceAt, List.length_take, List.length_drop]
  omega

end Chunks

/-! ## Packets of a file -/

/-- **A packet that belongs to a file**: a piece of it under the piece's own number, or the end of
it under the number behind the last piece. -/
structure IsPacketOf (size : Nat) (bytes : Bytes) (p : Packet) : Prop where
  ack_eq : p.ack = 0
  kind : (p.flags = Flags.data ∧ p.seq.toNat < pieceCount size bytes ∧
      p.payload = pieceAt size bytes p.seq.toNat ∧
      (p.seq.toNat + 1 < pieceCount size bytes → p.payload.length = size)) ∨
    (p.flags = Flags.fin ∧ p.seq.toNat = pieceCount size bytes ∧ p.payload = [])

/-- As long as numbers last, the packets a file is sent as belong to it. -/
lemma isPacketOf_of_mem_numbered {size : Nat} (hsize : 1 ≤ size) {bytes : Bytes}
    (hcount : pieceCount size bytes + 1 ≤ 4294967296) {p : Packet}
    (hp : p ∈ numbered (script (chunks size bytes))) : IsPacketOf size bytes p := by
  have hlength := length_chunks hsize bytes
  obtain ⟨i, item, hitem, rfl⟩ := mem_numbered.1 hp
  have hi := (List.getElem?_eq_some_iff.1 hitem).1
  rw [length_script, hlength] at hi
  have hseq : (UInt32.ofNat i).toNat = i := toNat_ofNat_of_lt (by omega)
  refine ⟨rfl, ?_⟩
  rw [hseq]
  rcases script_cases hitem with ⟨piece, hpiece, rfl⟩ | ⟨hend, rfl⟩
  · have hlt := (List.getElem?_eq_some_iff.1 hpiece).1
    obtain rfl := getElem?_chunks hpiece
    exact .inl ⟨rfl, hlength ▸ hlt, rfl, length_pieceAt⟩
  · exact .inr ⟨rfl, hend.trans hlength, rfl⟩

end ReliableTransfer

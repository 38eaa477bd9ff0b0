import ReliableTransfer.Host.Files

/-!
# What the server sends of a file

A file is sent in pieces of one size, of which only the last may be shorter.  A source that never
ends gives pieces without end, all of them the same, so that what lies ahead of the server is a
finite thing in any case.

* `chunks` — a byte string cut into pieces; `flatten_chunks` puts it together again.
* `Feed` — the pieces that lie ahead.
* `Feed.take`, `Feed.drop`, `Feed.isEmpty` — the next few of them, what comes after those, and
  whether there are none.
* `wholePieces` — what there is of a byte string in whole pieces.
* **`Source.feed`** — the pieces of a source.
-/

namespace ReliableTransfer

/-- **A byte string cut into pieces** of `size` bytes; the last may be shorter.  Pieces without
bytes get nowhere, so there are none of them. -/
def chunks (size : Nat) (bytes : Bytes) : List Bytes :=
  if size = 0 ∨ bytes = [] then [] else bytes.take size :: chunks size (bytes.drop size)
termination_by bytes.length
decreasing_by
  rename_i h
  have hsize : size ≠ 0 := fun e => h (.inl e)
  have hlength : bytes.length ≠ 0 := fun e => h (.inr (List.eq_nil_of_length_eq_zero e))
  rw [List.length_drop]
  omega

/-- The pieces, put together again, are the byte string. -/
theorem flatten_chunks {size : Nat} (hsize : size ≠ 0) (bytes : Bytes) :
    (chunks size bytes).flatten = bytes := by
  fun_induction chunks size bytes with
  | case1 bytes h =>
    rcases h with h | h
    · exact absurd h hsize
    · simp [h]
  | case2 bytes h ih => simp [ih]

/-- No piece is empty, and none is longer than it may be. -/
theorem length_of_mem_chunks {size : Nat} {bytes piece : Bytes}
    (h : piece ∈ chunks size bytes) : 0 < piece.length ∧ piece.length ≤ size := by
  fun_induction chunks size bytes with
  | case1 bytes h' => simp at h
  | case2 bytes h' ih =>
    rcases List.mem_cons.1 h with rfl | h
    · have hsize : size ≠ 0 := fun e => h' (.inl e)
      have hlength : bytes.length ≠ 0 := fun e => h' (.inr (List.eq_nil_of_length_eq_zero e))
      rw [List.length_take]
      omega
    · exact ih h

/-- **The pieces that lie ahead.** -/
inductive Feed
  /-- These, in order. -/
  | pieces (rest : List Bytes)
  /-- This one, again and again. -/
  | endless (piece : Bytes)
deriving DecidableEq

namespace Feed

/-- The next pieces, at most `n` of them. -/
def take (n : Nat) : Feed → List Bytes
  | pieces rest => rest.take n
  | endless piece => List.replicate n piece

/-- What comes after the next `n` pieces. -/
def drop (n : Nat) : Feed → Feed
  | pieces rest => pieces (rest.drop n)
  | endless piece => endless piece

/-- Whether no piece lies ahead. -/
def isEmpty : Feed → Bool
  | pieces rest => rest.isEmpty
  | endless _ => false

/-- Never more pieces are taken than were asked for. -/
theorem length_take_le (n : Nat) (feed : Feed) : (feed.take n).length ≤ n := by
  cases feed with
  | pieces rest => exact List.length_take_le n rest
  | endless piece => exact Nat.le_of_eq List.length_replicate

/-- Taking some pieces and then some more is taking them together. -/
theorem take_add (m n : Nat) (feed : Feed) :
    feed.take (m + n) = feed.take m ++ (feed.drop m).take n := by
  cases feed with
  | pieces rest => exact List.take_add
  | endless piece => exact List.replicate_append_replicate.symm

/-- Leaving out some pieces and then some more is leaving them out together. -/
theorem drop_add (m n : Nat) (feed : Feed) : feed.drop (m + n) = (feed.drop m).drop n := by
  cases feed with
  | pieces rest => simp [drop, List.drop_drop]
  | endless piece => rfl

/-- If fewer pieces come than were asked for, none lies ahead any more. -/
theorem isEmpty_drop_of_length_lt {n : Nat} {feed : Feed} (h : (feed.take n).length < n) :
    (feed.drop n).isEmpty := by
  cases feed with
  | pieces rest =>
    have h' : rest.length < n := by simp [take] at h; omega
    simp [drop, isEmpty, Nat.le_of_lt h']
  | endless piece => simp [take] at h

end Feed

/-- The bytes of whole pieces of `size` bytes, as far as they go. -/
def wholePieces (size : Nat) (bytes : Bytes) : Bytes :=
  bytes.take (bytes.length / size * size)

/-- **The pieces of a source** when they are to have `size` bytes.  Without a size nothing is
read.  Where reading fails, the piece that was being read is lost, whatever was there of it. -/
def Source.feed (size : Nat) : Source → Feed
  | content bytes => .pieces (chunks size bytes)
  | failing bytes => .pieces (chunks size (wholePieces size bytes))
  | zeros => if size = 0 then .pieces [] else .endless (List.replicate size 0)

/-- Whether reading a source in pieces of `size` bytes fails, rather than coming to an end. -/
def Source.fails (size : Nat) : Source → Bool
  | failing _ => size > 0
  | _ => false

end ReliableTransfer

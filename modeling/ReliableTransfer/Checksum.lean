import ReliableTransfer.Bytes

/-!
# The Internet checksum

A byte string is summed as big-endian words of two bytes with end-around carry: what spills
over sixteen bits is added back at the bottom.  The checksum is the complement of that sum, so
that a string which already carries its checksum sums to all ones.

* `foldCarry` — one end-around carry.
* `accumulate` — the running sum; it folds as soon as it leaves sixteen bits.
* `settle` — the final folding, until nothing is left above sixteen bits.
* **`checksum`** — the complement of the settled sum.
* `verifies` — whether a string sums to all ones.
-/

namespace ReliableTransfer.Checksum

/-- Adds what lies above sixteen bits back at the bottom. -/
def foldCarry (sum : UInt32) : UInt32 :=
  sum % 65536 + sum / 65536

/-- What a fold makes of a sum; no carry can push it past the word. -/
theorem toNat_foldCarry (sum : UInt32) :
    (foldCarry sum).toNat = sum.toNat % 65536 + sum.toNat / 65536 := by
  have h := sum.toNat_lt
  simp [foldCarry]
  omega

/-- The sum of a byte string's words on top of `sum`.  An odd byte at the end counts as the
more significant half of a word whose other half is zero. -/
def accumulate : UInt32 → Bytes → UInt32
  | sum, a :: b :: rest =>
    let next := sum + (joinWord16 a b).toUInt32
    accumulate (if next > 65535 then foldCarry next else next) rest
  | sum, [a] => sum + (joinWord16 a 0).toUInt32
  | sum, [] => sum

/-- Folds until the sum fits sixteen bits.  A fold of a sum that does not makes it smaller. -/
def settle (sum : UInt32) : UInt32 :=
  if sum > 65535 then settle (foldCarry sum) else sum
termination_by sum.toNat
decreasing_by
  rename_i h
  have h' : 65535 < sum.toNat := UInt32.lt_iff_toNat_lt.1 h
  rw [toNat_foldCarry]
  omega

end Checksum

open Checksum in
/-- **The checksum** of a byte string: the complement of its end-around sum. -/
def checksum (data : Bytes) : UInt16 :=
  ~~~ (settle (accumulate 0 data)).toUInt16

/-- Whether a byte string that carries its own checksum is intact. -/
def verifies (data : Bytes) : Bool :=
  checksum data == 0

end ReliableTransfer

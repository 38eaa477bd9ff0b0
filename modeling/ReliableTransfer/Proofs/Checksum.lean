import Mathlib.Tactic.Common
import ReliableTransfer.Checksum

/-!
# What a checksum is

Folding a sum does not change it modulo 65535, and brings it down to the one number from 1 to
65535 that it is congruent to; only a sum of zero stays zero.  So a checksum depends on the sum of
the words alone, and adding it to that sum gives a multiple of 65535.

* `Checksum.total` — the sum of the words of a byte string, as a natural number.
* `Checksum.reduce` — the number that folding ends at.
* **`Checksum.toNat_checksum`** — the checksum as a number.
* **`Checksum.verifies_iff`** — which byte strings are taken for intact.
* `Checksum.verifies_field_iff` — which words make a string intact, each in its place.
* `Checksum.weight` — what bytes add to the sum from the place on at which they stand.
* `Checksum.verifies_append`, `Checksum.not_verifies_of_weight_ne` — what goes unnoticed behind an
  intact string, and what does not go unnoticed in it.
-/

namespace ReliableTransfer.Checksum

/-- The sum of the words of a byte string, an odd byte at the end being the upper half of a word. -/
def total : Bytes → Nat
  | a :: b :: rest => (joinWord16 a b).toNat + total rest
  | [a] => (joinWord16 a 0).toNat
  | [] => 0

/-- What end-around carries make of a sum. -/
def reduce (n : Nat) : Nat :=
  if n = 0 then 0 else (n - 1) % 65535 + 1

lemma reduce_le (n : Nat) : reduce n ≤ 65535 := by
  rw [reduce]
  split_ifs <;> omega

lemma reduce_of_le {n : Nat} (h : n ≤ 65535) : reduce n = n := by
  rw [reduce]
  split_ifs <;> omega

/-- Part of a sum may be folded before the rest is added. -/
lemma reduce_fold_add (n m : Nat) : reduce (n % 65536 + n / 65536 + m) = reduce (n + m) := by
  rw [reduce, reduce]
  split_ifs <;> omega

lemma toNat_settle (sum : UInt32) : (settle sum).toNat = reduce sum.toNat := by
  fun_induction settle sum with
  | case1 sum h ih =>
      have hfold := reduce_fold_add sum.toNat 0
      rw [ih, toNat_foldCarry]
      exact hfold
  | case2 sum h =>
      have hle : sum.toNat ≤ 65535 := UInt32.le_iff_toNat_le.1 (UInt32.not_lt.1 h)
      exact (reduce_of_le hle).symm

/-- As long as a running sum is folded, the next word fits on top of it. -/
lemma toNat_add_word {sum : UInt32} (h : sum.toNat ≤ 65535) (w : UInt16) :
    (sum + w.toUInt32).toNat = sum.toNat + w.toNat := by
  have hw := w.toNat_lt
  rw [UInt32.toNat_add, UInt16.toNat_toUInt32]
  omega

/-- **The running sum** stands for the sum of all words, on top of what it began with. -/
lemma reduce_accumulate {sum : UInt32} (h : sum.toNat ≤ 65535) (data : Bytes) :
    reduce (accumulate sum data).toNat = reduce (sum.toNat + total data) := by
  fun_induction accumulate sum data with
  | case1 sum a b rest next ih =>
      have hnext : next.toNat = sum.toNat + (joinWord16 a b).toNat := toNat_add_word h _
      have hw := (joinWord16 a b).toNat_lt
      rw [total, ← Nat.add_assoc, ← hnext]
      -- the running sum is folded as soon as it leaves sixteen bits
      by_cases hcarry : next > 65535
      · rw [if_pos hcarry] at ih ⊢
        rw [ih (by rw [toNat_foldCarry]; omega), toNat_foldCarry, reduce_fold_add]
      · rw [if_neg hcarry] at ih ⊢
        exact ih (UInt32.le_iff_toNat_le.1 (UInt32.not_lt.1 hcarry))
  | case2 sum a => rw [total, toNat_add_word h]
  | case3 sum => rfl

/-- **The checksum** is what the folded sum of the words lacks of all ones. -/
lemma toNat_checksum (data : Bytes) : (checksum data).toNat = 65535 - reduce (total data) := by
  have hsum : (settle (accumulate 0 data)).toNat = reduce (total data) := by
    rw [toNat_settle, reduce_accumulate (Nat.zero_le _), UInt32.toNat_zero, Nat.zero_add]
  have hle := reduce_le (total data)
  rw [checksum, UInt16.toNat_not, UInt32.toNat_toUInt16, hsum, UInt16.size]
  omega

/-- **A byte string is taken for intact** if its words add up to a multiple of 65535, other than
zero. -/
lemma verifies_iff (data : Bytes) :
    verifies data = true ↔ total data ≠ 0 ∧ total data % 65535 = 0 := by
  rw [verifies, beq_iff_eq, ← UInt16.toNat_inj, toNat_checksum, UInt16.toNat_zero, reduce]
  split_ifs with hzero
  · exact ⟨False.elim, fun h => h.1 hzero⟩
  · omega

/-! ## Words in a layout -/

lemma total_word16_append (w : UInt16) (rest : Bytes) :
    total (word16 w ++ rest) = w.toNat + total rest := by
  rw [word16, List.cons_append, List.cons_append, List.nil_append, total, joinWord16_bytes]

/-- Behind whole words the sum goes on. -/
lemma total_append {front : Bytes} (h : front.length % 2 = 0) (rest : Bytes) :
    total (front ++ rest) = total front + total rest := by
  fun_induction total front with
  | case1 a b front ih =>
      rw [List.length_cons, List.length_cons] at h
      rw [List.cons_append, List.cons_append, total, ih (by omega), Nat.add_assoc]
  | case2 a => exact absurd h (by simp)
  | case3 => rw [List.nil_append, Nat.zero_add]

/-- **Which words make a string intact** in a place of their own: the checksum that is taken with
zero there, and all ones if that checksum is zero. -/
lemma verifies_field_iff {front : Bytes} (h : front.length % 2 = 0) (w : UInt16) (rest : Bytes) :
    verifies (front ++ word16 w ++ rest) = true ↔
      w = checksum (front ++ word16 0 ++ rest) ∨
        (w = 0xFFFF ∧ checksum (front ++ word16 0 ++ rest) = 0) := by
  have htotal : ∀ w, total (front ++ word16 w ++ rest) = total front + (w.toNat + total rest) := by
    intro w
    rw [List.append_assoc, total_append h, total_word16_append]
  have hw := w.toNat_lt
  simp only [verifies_iff, ← UInt16.toNat_inj, toNat_checksum, htotal, reduce, UInt16.reduceToNat]
  -- the words around it may add up to zero, where only all ones will do
  split_ifs <;> omega

/-- **A checksum that is put where zero was** makes the whole sum up to all ones. -/
lemma verifies_checksum {front : Bytes} (h : front.length % 2 = 0) (rest : Bytes) :
    verifies (front ++ word16 (checksum (front ++ word16 0 ++ rest)) ++ rest) = true :=
  (verifies_field_iff h _ rest).2 (.inl rfl)

/-! ## Bytes by their places

What a byte adds to the sum depends only on whether the place it has in the whole string is even or
odd.  So a sum can be cut anywhere, also in the middle of a word. -/

/-- **What bytes weigh** when they stand from some offset on: those at even places are the upper
halves of words, and those at odd places the lower halves. -/
def weight : Nat → Bytes → Nat
  | _, [] => 0
  | offset, b :: rest => (if offset % 2 = 0 then 256 else 1) * b.toNat + weight (offset + 1) rest

lemma weight_add_two (offset : Nat) (data : Bytes) :
    weight (offset + 2) data = weight offset data := by
  induction data generalizing offset with
  | nil => rfl
  | cons b rest ih => rw [weight, weight, Nat.add_mod_right, Nat.add_right_comm, ih]

lemma weight_append (offset : Nat) (front rest : Bytes) :
    weight offset (front ++ rest) = weight offset front + weight (offset + front.length) rest := by
  induction front generalizing offset with
  | nil => rw [List.nil_append, weight, Nat.zero_add, List.length_nil, Nat.add_zero]
  | cons b front ih =>
      rw [List.cons_append, weight, weight, ih, List.length_cons, Nat.add_assoc, Nat.add_assoc,
        Nat.add_comm 1]

lemma weight_replicate_zero (offset n : Nat) : weight offset (List.replicate n 0) = 0 := by
  induction n generalizing offset with
  | zero => rfl
  | succ n ih => rw [List.replicate_succ, weight, ih, UInt8.toNat_zero, Nat.mul_zero]

/-- The sum of the words of a byte string is what all its bytes weigh. -/
lemma total_eq_weight (data : Bytes) : total data = weight 0 data := by
  fun_induction total data with
  | case1 a b rest ih =>
      rw [weight, weight, weight_add_two, toNat_joinWord16, ih]
      simp only [Nat.zero_mod, if_true, Nat.zero_add, Nat.one_mod, Nat.one_ne_zero, if_false]
      omega
  | case2 a => rw [toNat_joinWord16]; rfl
  | case3 => rfl

/-- **Behind an intact string** bytes go unnoticed if what they weigh there is a multiple of 65535,
and not otherwise. -/
lemma verifies_append {front : Bytes} (h : verifies front = true) (rest : Bytes) :
    verifies (front ++ rest) = true ↔ weight front.length rest % 65535 = 0 := by
  rw [verifies_iff, total_eq_weight] at h
  rw [verifies_iff, total_eq_weight, weight_append, Nat.zero_add]
  omega

/-- Zeros behind a string change nothing about whether it is intact. -/
lemma verifies_append_zeros (front : Bytes) {rest : Bytes} (h : ∀ b ∈ rest, b = 0) :
    verifies (front ++ rest) = verifies front := by
  have hrest : rest = List.replicate rest.length 0 := List.eq_replicate_of_mem h
  have htotal : total (front ++ rest) = total front := by
    rw [total_eq_weight, total_eq_weight, weight_append, hrest, weight_replicate_zero, Nat.add_zero]
  rw [Bool.eq_iff_iff, verifies_iff, verifies_iff, htotal]

lemma total_append_append (front mid back : Bytes) :
    total (front ++ mid ++ back)
      = total front + weight front.length mid + weight (front ++ mid).length back := by
  rw [total_eq_weight, total_eq_weight, weight_append, weight_append, Nat.zero_add, Nat.zero_add]

/-- Bytes in an intact string cannot be replaced unnoticed by as many others that do not weigh the
same up to multiples of 65535. -/
lemma not_verifies_of_weight_ne {front old new back : Bytes}
    (h : verifies (front ++ old ++ back) = true) (hlength : new.length = old.length)
    (hne : weight front.length new % 65535 ≠ weight front.length old % 65535) :
    verifies (front ++ new ++ back) = false := by
  have hback : (front ++ new).length = (front ++ old).length := by
    rw [List.length_append, List.length_append, hlength]
  rw [verifies_iff, total_append_append] at h
  rw [← Bool.not_eq_true, verifies_iff, total_append_append, hback]
  omega

/-- Two words that are the same up to multiples of 65535 are the same, or one of them is all zeros
and the other one all ones. -/
lemma halves_of_mod_eq {a b c d : Nat} (ha : a < 256) (hb : b < 256) (hc : c < 256) (hd : d < 256)
    (h : (256 * c + d) % 65535 = (256 * a + b) % 65535) :
    (c = a ∧ d = b) ∨ (a = 0 ∧ b = 0 ∧ c = 255 ∧ d = 255) ∨
      (a = 255 ∧ b = 255 ∧ c = 0 ∧ d = 0) := by
  have hwords : 256 * c + d = 256 * a + b ∨ (256 * a + b = 0 ∧ 256 * c + d = 65535) ∨
      (256 * a + b = 65535 ∧ 256 * c + d = 0) := by
    omega
  omega

/-- **One byte or two neighbouring bytes** never weigh the same as others in their place, except
that two bytes of zeros weigh the same as two bytes of ones. -/
lemma weight_ne_of_short {old new : Bytes} (hlength : new.length = old.length)
    (hshort : old.length ≤ 2) (hne : new ≠ old) (hup : ¬ (old = [0, 0] ∧ new = [255, 255]))
    (hdown : ¬ (old = [255, 255] ∧ new = [0, 0])) (offset : Nat) :
    weight offset new % 65535 ≠ weight offset old % 65535 := by
  match old, new, hlength with
  | [], [], _ => exact absurd rfl hne
  | [a], [c], _ =>
      have ha := a.toNat_lt
      have hc := c.toNat_lt
      have hne' : c.toNat ≠ a.toNat := fun h => hne (by rw [UInt8.toNat_inj.1 h])
      simp only [weight, Nat.add_zero]
      split_ifs <;> omega
  | [a, b], [c, d], _ =>
      have ha := a.toNat_lt
      have hb := b.toNat_lt
      have hc := c.toNat_lt
      have hd := d.toNat_lt
      simp only [ne_eq, List.cons.injEq, and_true, ← UInt8.toNat_inj, UInt8.reduceToNat]
        at hne hup hdown
      -- either of the two may be the upper half of a word
      simp only [weight, Nat.add_zero]
      intro heq
      split_ifs at heq with heven hodd hodd
      · omega
      · have hhalves := halves_of_mod_eq ha hb hc hd (by rwa [Nat.one_mul, Nat.one_mul] at heq)
        omega
      · have hhalves := halves_of_mod_eq hb ha hd hc
          (by rwa [Nat.one_mul, Nat.one_mul, Nat.add_comm, Nat.add_comm a.toNat] at heq)
        omega
      · omega

end ReliableTransfer.Checksum

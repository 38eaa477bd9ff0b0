import Mathlib.Data.Nat.ModEq
import Mathlib.Logic.Function.Iterate
import ReliableTransfer.Proofs.Checksum

/-!
# The checksum is the Internet checksum

RFC 1071 adds words of sixteen bits with end-around carry.  Here the sum is kept in a word of 32
bits and folded only when it leaves sixteen.  That is enough: before each word is added the sum fits
sixteen bits, so nothing is ever lost, and what an odd byte at the end adds is undone by one last
fold.  What comes out is the complement of the sum of all words modulo 65535, where only the sum of
nothing but zeros counts as zero.

* `Checksum.accumulate_append`, **`Checksum.toNat_accumulate_le`** — the running sum word by word.
* `Checksum.settle_eq_iterate` — the rounds of the final folding.
* `Checksum.verifies_insert` — a checksum put in among the words it was taken of.
* **`Checksum.internet_checksum`** — the whole.
-/

namespace ReliableTransfer.Checksum

/-! ## The running sum -/

/-- Whole words can be summed first, and the rest on top of them. -/
lemma accumulate_append {front : Bytes} (h : front.length % 2 = 0) (sum : UInt32) (rest : Bytes) :
    accumulate sum (front ++ rest) = accumulate (accumulate sum front) rest := by
  fun_induction accumulate sum front with
  | case1 sum a b front next ih =>
      simp only [List.cons_append, List.length_cons] at h ⊢
      rw [accumulate]
      exact ih (by omega)
  | case2 sum a => simp at h
  | case3 sum => rfl

/-- **The running sum stays within sixteen bits**, but for an odd byte at the end, which is added
without a fold behind it. -/
lemma toNat_accumulate_le {sum : UInt32} (h : sum.toNat ≤ 65535) (data : Bytes) :
    (accumulate sum data).toNat ≤ 65535 + data.length % 2 * 65280 := by
  fun_induction accumulate sum data with
  | case1 sum a b rest next ih =>
      have hnext : next.toNat = sum.toNat + (joinWord16 a b).toNat := toNat_add_word h _
      have hw := (joinWord16 a b).toNat_lt
      simp only [List.length_cons, Nat.add_assoc, Nat.reduceAdd, Nat.add_mod_right]
      apply ih
      by_cases hcarry : next > 65535
      · rw [if_pos hcarry, toNat_foldCarry]
        omega
      · rw [if_neg hcarry]
        exact UInt32.le_iff_toNat_le.1 (UInt32.not_lt.1 hcarry)
  | case2 sum a =>
      have ha := a.toNat_lt
      simp only [toNat_add_word h, toNat_joinWord16, UInt8.toNat_zero, List.length_singleton]
      omega
  | case3 sum => exact Nat.le_add_right_of_le h

/-! ## The final folding -/

/-- **The rounds of the final folding**: it goes on as long as the sum does not fit, and that is for
one round at most. -/
lemma settle_eq_iterate {sum : UInt32} (h : sum.toNat ≤ 65535 + 65280) :
    ∃ n ≤ 1, (∀ m < n, 65535 < (foldCarry^[m] sum).toNat) ∧ (foldCarry^[n] sum).toNat ≤ 65535 ∧
      settle sum = foldCarry^[n] sum := by
  by_cases hcarry : sum > 65535
  · have hbig : 65535 < sum.toNat := UInt32.lt_iff_toNat_lt.1 hcarry
    have hfold : (foldCarry sum).toNat ≤ 65535 := by
      rw [toNat_foldCarry]
      omega
    refine ⟨1, Nat.le_refl 1, ?_, hfold, ?_⟩
    · intro m hm
      obtain rfl : m = 0 := by omega
      exact hbig
    · have hstop : ¬ foldCarry sum > 65535 := UInt32.not_lt.2 (UInt32.le_iff_toNat_le.2 hfold)
      rw [settle, if_pos hcarry, settle, if_neg hstop]
      rfl
  · have hfits : sum.toNat ≤ 65535 := UInt32.le_iff_toNat_le.1 (UInt32.not_lt.1 hcarry)
    refine ⟨0, Nat.zero_le 1, fun m hm => absurd hm m.not_lt_zero, hfits, ?_⟩
    rw [settle, if_neg hcarry]
    rfl

/-! ## What comes out -/

/-- A fold ends at a number that is congruent to the sum. -/
lemma reduce_modEq (n : Nat) : reduce n ≡ n [MOD 65535] := by
  rw [Nat.ModEq, reduce]
  split_ifs <;> omega

/-- The checksum depends on nothing but the sum of the words. -/
lemma checksum_congr {data data' : Bytes} (h : total data = total data') :
    checksum data = checksum data' := by
  rw [← UInt16.toNat_inj, toNat_checksum, toNat_checksum, h]

/-- **A checksum that is put in between whole words** makes the bytes it was taken of intact. -/
lemma verifies_insert {front : Bytes} (h : front.length % 2 = 0) (rest : Bytes) :
    verifies (front ++ word16 (checksum (front ++ rest)) ++ rest) = true := by
  have hzero : total (front ++ rest) = total (front ++ word16 0 ++ rest) := by
    rw [List.append_assoc, total_append h, total_append h, total_word16_append, UInt16.toNat_zero,
      Nat.zero_add]
  rw [checksum_congr hzero]
  exact verifies_checksum h rest

/-- **The checksum is the Internet checksum.**  It is the complement of the sum of the words as
natural numbers, taken modulo 65535 as a number from 1 to 65535; only a sum of zero stays zero.  On
the way nothing is lost: wherever whole words lie behind, the running sum fits sixteen bits, the next
word is added and carries are folded as in the natural numbers, and the final folding takes one round
at most.  So a string is intact just when its words add up to a multiple of 65535 that is not zero,
and becomes intact by its own checksum, put in or appended at an even place. -/
theorem internet_checksum (data : Bytes) :
    (∃ r, (checksum data).toNat = 65535 - r ∧ (total data = 0 → r = 0) ∧
      (total data ≠ 0 → 1 ≤ r ∧ r ≤ 65535 ∧ r ≡ total data [MOD 65535])) ∧
    (∀ front rest, data = front ++ rest → front.length % 2 = 0 →
      accumulate 0 data = accumulate (accumulate 0 front) rest ∧
      (accumulate 0 front).toNat ≤ 65535 ∧
      ∀ w : UInt16,
        (accumulate 0 front + w.toUInt32).toNat = (accumulate 0 front).toNat + w.toNat) ∧
    (∀ sum, (foldCarry sum).toNat = sum.toNat % 65536 + sum.toNat / 65536) ∧
    (∃ n ≤ 1, (∀ m < n, 65535 < (foldCarry^[m] (accumulate 0 data)).toNat) ∧
      (foldCarry^[n] (accumulate 0 data)).toNat ≤ 65535 ∧
      settle (accumulate 0 data) = foldCarry^[n] (accumulate 0 data)) ∧
    (verifies data = true ↔ 0 < total data ∧ 65535 ∣ total data) ∧
    (∀ front rest, data = front ++ rest → front.length % 2 = 0 →
      verifies (front ++ word16 (checksum data) ++ rest) = true) := by
  have hsum : ∀ data, (accumulate 0 data).toNat ≤ 65535 + data.length % 2 * 65280 :=
    toNat_accumulate_le (Nat.zero_le _)
  refine ⟨⟨reduce (total data), toNat_checksum data, ?_, ?_⟩, ?_, toNat_foldCarry, ?_, ?_, ?_⟩
  · intro hzero
    rw [reduce, if_pos hzero]
  · intro hne
    refine ⟨?_, reduce_le _, reduce_modEq _⟩
    rw [reduce, if_neg hne]
    exact Nat.le_add_left 1 _
  · rintro front rest rfl heven
    have hle : (accumulate 0 front).toNat ≤ 65535 := by
      have hfront := hsum front
      omega
    exact ⟨accumulate_append heven 0 rest, hle, toNat_add_word hle⟩
  · have hdata := hsum data
    exact settle_eq_iterate (by omega)
  · rw [verifies_iff, Nat.pos_iff_ne_zero, Nat.dvd_iff_mod_eq_zero]
  · rintro front rest rfl heven
    exact verifies_insert heven rest

/-- Two words of five bytes leave sixteen bits, and so does the odd byte behind them; the checksum
fits in between.  Two zeros have a sum of zero. -/
theorem internet_checksum_odd :
    ([255, 255, 171, 205] : Bytes).length % 2 = 0 ∧ total [255, 255, 171, 205, 239] ≠ 0 ∧
    (∃ r, (checksum [255, 255, 171, 205, 239]).toNat = 65535 - r ∧ 1 ≤ r ∧ r ≤ 65535 ∧
      r ≡ total [255, 255, 171, 205, 239] [MOD 65535]) ∧
    accumulate 0 [255, 255, 171, 205, 239] = accumulate (accumulate 0 [255, 255, 171, 205]) [239] ∧
    (accumulate 0 [255, 255, 171, 205]).toNat ≤ 65535 ∧
    verifies ([255, 255, 171, 205] ++ word16 (checksum [255, 255, 171, 205, 239]) ++ [239]) = true ∧
    total [0, 0] = 0 ∧ (checksum [0, 0]).toNat = 65535 - 0 := by
  have heven : ([255, 255, 171, 205] : Bytes).length % 2 = 0 := by decide
  have hne : total [255, 255, 171, 205, 239] ≠ 0 := by decide
  have hzero : total [0, 0] = 0 := by decide
  obtain ⟨⟨r, hr, _, hmod⟩, hsum, _, _, _, hinsert⟩ :=
    internet_checksum [255, 255, 171, 205, 239]
  obtain ⟨⟨z, hz, hz0, _⟩, _⟩ := internet_checksum [0, 0]
  obtain ⟨hsplit, hle, _⟩ := hsum [255, 255, 171, 205] [239] rfl heven
  rw [hz0 hzero] at hz
  exact ⟨heven, hne, ⟨r, hr, hmod hne⟩, hsplit, hle, hinsert _ _ rfl heven, hzero, hz⟩

end ReliableTransfer.Checksum

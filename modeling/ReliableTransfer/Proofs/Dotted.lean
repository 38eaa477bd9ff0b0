import Mathlib.Data.List.Induction
import Mathlib.Tactic.Common
import ReliableTransfer.Ipv4.Address

/-!
# Addresses have one written form

Reading an address is strict: no leading zeros, no blanks, nothing behind the last part.  So a text
that denotes an address is, up to its first zero byte, the written form of that address, and two
sides that compare addresses as texts agree with two that compare the addresses.

* `decimal_digitsValue` — a string of digits without a leading zero is its value in decimal.
* `intercalate_splitAtByte` — the pieces of a text, put together again, are the text.
* **`Ipv4.Address.dotted_of_parse?`** — the written form of the address a text denotes.
* `Ipv4.Address.parse?_eq_some_iff` — which texts denote an address.
-/

namespace ReliableTransfer

lemma digitsValue_concat (s : Bytes) (c : UInt8) :
    digitsValue (s ++ [c]) = 10 * digitsValue s + (c.toNat - 48) :=
  List.foldl_append

/-- A digit stands for its value. -/
lemma digitByte_of_isDigit {c : UInt8} (h : isDigit c = true) (n : Nat) :
    digitByte (10 * n + (c.toNat - 48)) = c := by
  rw [isDigit, Bool.and_eq_true, decide_eq_true_eq, decide_eq_true_eq] at h
  have hlow : 48 ≤ c.toNat := UInt8.le_iff_toNat_le.1 h.1
  have hhigh : c.toNat ≤ 57 := UInt8.le_iff_toNat_le.1 h.2
  have hvalue : 48 + (10 * n + (c.toNat - 48)) % 10 = c.toNat := by omega
  rw [digitByte, hvalue, UInt8.ofNat_toNat]

lemma head?_append_singleton {s : Bytes} (hs : s ≠ []) (c : UInt8) :
    (s ++ [c]).head? = s.head? := by
  rw [List.head?_append, Option.or_of_isSome (List.isSome_head?.2 hs)]

/-- Digits that do not begin with a zero have a value. -/
lemma digitsValue_pos {s : Bytes} (hne : s ≠ []) (hdigits : ∀ c ∈ s, isDigit c = true)
    (hlead : s.head? ≠ some 48) : 0 < digitsValue s := by
  induction s using List.reverseRecOn with
  | nil => exact absurd rfl hne
  | append_singleton s c ih =>
      rw [digitsValue_concat]
      rcases List.eq_nil_or_concat s with rfl | ⟨init, last, rfl⟩
      · have hc := hdigits c (List.mem_append_right _ (List.mem_singleton_self c))
        rw [isDigit, Bool.and_eq_true, decide_eq_true_eq, decide_eq_true_eq] at hc
        have hlow : 48 ≤ c.toNat := UInt8.le_iff_toNat_le.1 hc.1
        have hne48 : c.toNat ≠ 48 := fun e => hlead (congrArg some (UInt8.toNat_inj.1 e))
        omega
      · rw [List.concat_eq_append] at hdigits hlead ih ⊢
        have hpos := ih (by simp) (fun x hx => hdigits x (List.mem_append_left _ hx))
          (by rwa [head?_append_singleton (by simp)] at hlead)
        omega

/-- **A string of digits** without a leading zero is its value in decimal. -/
lemma decimal_digitsValue {s : Bytes} (hne : s ≠ []) (hdigits : ∀ c ∈ s, isDigit c = true)
    (hlead : 1 < s.length → s.head? ≠ some 48) : decimal (digitsValue s) = s := by
  induction s using List.reverseRecOn with
  | nil => exact absurd rfl hne
  | append_singleton s c ih =>
      have hc := hdigits c (List.mem_append_right _ (List.mem_singleton_self c))
      have hinit : ∀ x ∈ s, isDigit x = true := fun x hx => hdigits x (List.mem_append_left _ hx)
      have hbyte := digitByte_of_isDigit hc (digitsValue s)
      have hvalue : c.toNat - 48 < 10 := by
        rw [isDigit, Bool.and_eq_true, decide_eq_true_eq, decide_eq_true_eq] at hc
        have hhigh : c.toNat ≤ 57 := UInt8.le_iff_toNat_le.1 hc.2
        omega
      rw [digitsValue_concat, decimal, hbyte]
      rcases eq_or_ne s [] with rfl | hs
      · rw [if_pos (by rw [digitsValue]; simpa using hvalue), List.nil_append]
      · -- the digits in front do not begin with a zero, so they have a value of their own
        have hhead : s.head? ≠ some 48 := by
          have hlength := List.length_pos_iff.2 hs
          have hfirst := hlead (by rw [List.length_append, List.length_singleton]; omega)
          rwa [head?_append_singleton hs] at hfirst
        have hpos := digitsValue_pos hs hinit hhead
        rw [if_neg (by omega),
          show (10 * digitsValue s + (c.toNat - 48)) / 10 = digitsValue s by omega,
          ih hs hinit fun _ => hhead]

/-- The pieces of a text with the separator between them are the text. -/
lemma intercalate_splitAtByte (sep : UInt8) (s : Bytes) :
    [sep].intercalate (splitAtByte sep s) = s := by
  induction s with
  | nil => rfl
  | cons c s ih =>
      rw [splitAtByte]
      cases hpieces : splitAtByte sep s with
      | nil => exact absurd hpieces (splitAtByte_ne_nil sep s)
      | cons piece pieces =>
          rw [hpieces] at ih
          dsimp only
          split_ifs with hc
          · rw [← ih, eq_of_beq hc]
            rfl
          · cases pieces with
            | nil => exact congrArg (c :: ·) ih
            | cons next pieces => exact congrArg (c :: ·) ih

namespace Ipv4.Address

/-- A part that is read is written the same way. -/
lemma decimal_of_part? {s : Bytes} {b : UInt8} (h : part? s = some b) : decimal b.toNat = s := by
  rw [part?] at h
  split_ifs at h with hbad hvalue
  simp only [Bool.or_eq_true, Bool.and_eq_true, Bool.not_eq_true', not_or, not_and,
    decide_eq_true_eq, Bool.not_eq_false, List.isEmpty_iff, List.all_eq_true, beq_iff_eq] at hbad
  obtain ⟨⟨⟨hne, _⟩, hdigits⟩, hlead⟩ := hbad
  rw [← Option.some.inj h, UInt8.toNat_ofNat', Nat.mod_eq_of_lt (by omega)]
  exact decimal_digitsValue hne hdigits hlead

/-- **A text that denotes an address** is the written form of that address, up to its first zero
byte. -/
lemma dotted_of_parse? {s : Bytes} {x : Address} (h : parse? s = some x) :
    x.dotted = untilNul s := by
  rw [parse?] at h
  split at h
  · rename_i a b c d hpieces
    simp only [Option.bind_eq_bind, Option.bind_eq_some_iff] at h
    obtain ⟨a', ha, b', hb, c', hc, d', hd, hx⟩ := h
    rw [← intercalate_splitAtByte 46 (untilNul s), hpieces, ← decimal_of_part? ha,
      ← decimal_of_part? hb, ← decimal_of_part? hc, ← decimal_of_part? hd, ← Option.some.inj hx,
      dotted, show text "." = [46] by decide]
    simp [List.intercalate]
  · cases h

/-- **Which texts denote an address**: those that are its written form up to their first zero
byte. -/
lemma parse?_eq_some_iff {s : Bytes} {x : Address} : parse? s = some x ↔ x.dotted = untilNul s := by
  constructor
  · exact dotted_of_parse?
  · intro h
    rw [parse?, ← h, splitAtByte_dotted]
    simp [part?_decimal]

end Ipv4.Address

end ReliableTransfer

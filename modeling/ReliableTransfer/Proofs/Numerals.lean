import Mathlib.Data.List.TakeWhile
import ReliableTransfer.Decimal

/-!
# The number a text denotes

A text denotes a number if it begins with one: blanks, a sign or none, and digits as far as they
go.  This says nothing about how such a text is read, and it is what reading it comes to.

* `Sign` — a sign in front of digits, or none.
* `Denotes` — which number a text denotes.
* **`leadingInt?_eq_some_iff`** — the number that is read is the number that is denoted.
* `Denotes.unique` — a text denotes one number at most.
-/

namespace ReliableTransfer

/-- A sign in front of digits, or none. -/
inductive Sign
  | absent
  | plus
  | minus

namespace Sign

/-- How a sign is written. -/
def written : Sign → Bytes
  | absent => []
  | plus => [43]
  | minus => [45]

/-- A number with a sign. -/
def apply (n : Nat) : Sign → Int
  | absent | plus => n
  | minus => -n

end Sign

/-- **The text denotes the number**: behind blanks and a sign, if there is one, stand its digits,
and what follows them, if anything does, is no digit. -/
def Denotes (s : Bytes) (n : Int) : Prop :=
  ∃ (blanks : Bytes) (sign : Sign) (digits rest : Bytes),
    s = blanks ++ (sign.written ++ (digits ++ rest)) ∧ (∀ c ∈ blanks, isBlank c = true) ∧
    digits ≠ [] ∧ (∀ c ∈ digits, isDigit c = true) ∧ (∀ c ∈ rest.head?, isDigit c = false) ∧
    n = sign.apply (digitsValue digits)

/-! ## Digits, signs and blanks are told apart -/

variable {c : UInt8} {s digits rest : Bytes} {n : Int}

lemma isBlank_of_isDigit (h : isDigit c = true) : isBlank c = false := by
  simp only [isDigit, Bool.and_eq_true, decide_eq_true_eq, UInt8.le_iff_toNat_le] at h
  simp only [isBlank, Bool.or_eq_false_iff, beq_eq_false_iff_ne, ne_eq, Bool.and_eq_false_iff,
    decide_eq_false_iff_not, UInt8.le_iff_toNat_le, ← UInt8.toNat_inj]
  simp only [UInt8.reduceToNat] at h ⊢
  omega

lemma splitSign_of_isDigit (h : isDigit c = true) : splitSign (c :: rest) = (false, c :: rest) := by
  unfold splitSign
  split
  · rename_i heq
    obtain ⟨rfl, _⟩ := List.cons.inj heq
    cases h
  · rename_i heq
    obtain ⟨rfl, _⟩ := List.cons.inj heq
    cases h
  · rfl

/-- The digits at the front of a text are all that is looked at. -/
lemma leadingNat?_append (hne : digits ≠ []) (hdigits : ∀ c ∈ digits, isDigit c = true)
    (hrest : ∀ c ∈ rest.head?, isDigit c = false) :
    leadingNat? (digits ++ rest) = some (digitsValue digits) := by
  have hnone : rest.takeWhile isDigit = [] := by
    cases rest with
    | nil => rfl
    | cons c rest => exact List.takeWhile_cons_of_neg (by simp [hrest c rfl])
  have hall : (digits ++ rest).takeWhile isDigit = digits := by
    rw [List.takeWhile_append_of_pos hdigits, hnone, List.append_nil]
  rw [leadingNat?, hall]
  cases digits with
  | nil => exact absurd rfl hne
  | cons d digits => rfl

/-- A number that is read consists of the digits at the front. -/
lemma exists_digits_of_leadingNat? {m : Nat} (h : leadingNat? s = some m) :
    ∃ digits rest, s = digits ++ rest ∧ digits ≠ [] ∧ (∀ c ∈ digits, isDigit c = true) ∧
      (∀ c ∈ rest.head?, isDigit c = false) ∧ m = digitsValue digits := by
  refine ⟨s.takeWhile isDigit, s.dropWhile isDigit, List.takeWhile_append_dropWhile.symm, ?_,
    fun c hc => List.mem_takeWhile_imp hc, fun c hc => ?_, ?_⟩
  · intro hnil
    rw [leadingNat?, hnil] at h
    cases h
  · cases hdrop : s.dropWhile isDigit with
    | nil =>
        rw [hdrop] at hc
        cases hc
    | cons d rest =>
        rw [hdrop] at hc
        obtain rfl : d = c := Option.some.inj hc
        have hhead := List.head?_dropWhile_not isDigit s
        rw [hdrop] at hhead
        simpa using hhead
  · rw [leadingNat?] at h
    split at h
    · cases h
    · exact (Option.some.inj h).symm

/-! ## Reading -/

/-- The sign of a text in front of digits is split off, whichever it is. -/
lemma splitSign_written (sign : Sign) (hne : digits ≠ [])
    (hdigits : ∀ c ∈ digits, isDigit c = true) :
    splitSign (sign.written ++ (digits ++ rest)) = (sign matches .minus, digits ++ rest) := by
  cases sign with
  | absent =>
      obtain ⟨d, digits, rfl⟩ := List.exists_cons_of_ne_nil hne
      exact splitSign_of_isDigit (hdigits d List.mem_cons_self)
  | plus => rfl
  | minus => rfl

/-- No blank stands behind the blanks. -/
lemma dropWhile_isBlank_written (sign : Sign) (hne : digits ≠ [])
    (hdigits : ∀ c ∈ digits, isDigit c = true) :
    (sign.written ++ (digits ++ rest)).dropWhile isBlank = sign.written ++ (digits ++ rest) := by
  cases sign with
  | absent =>
      obtain ⟨d, digits, rfl⟩ := List.exists_cons_of_ne_nil hne
      exact List.dropWhile_cons_of_neg
        (by simp [isBlank_of_isDigit (hdigits d List.mem_cons_self)])
  | plus => rfl
  | minus => rfl

/-- A sign that is split off was written. -/
lemma exists_sign (s : Bytes) : ∃ sign : Sign,
    s = sign.written ++ (splitSign s).2 ∧ (splitSign s).1 = (sign matches .minus) := by
  unfold splitSign
  split
  · exact ⟨.plus, rfl, rfl⟩
  · exact ⟨.minus, rfl, rfl⟩
  · exact ⟨.absent, rfl, rfl⟩

lemma Sign.apply_eq (sign : Sign) (m : Nat) :
    (if (sign matches .minus) = true then -(m : Int) else m) = sign.apply m := by
  cases sign <;> rfl

lemma leadingInt?_eq (s : Bytes) :
    leadingInt? s = (leadingNat? (splitSign (s.dropWhile isBlank)).2).map fun m : Nat =>
      if (splitSign (s.dropWhile isBlank)).1 = true then -(m : Int) else m := by
  rw [leadingInt?]
  dsimp only
  cases leadingNat? (splitSign (s.dropWhile isBlank)).2 <;> rfl

/-- **The number that is read** is the number the text denotes. -/
lemma leadingInt?_eq_some_iff : leadingInt? s = some n ↔ Denotes s n := by
  constructor
  · intro h
    obtain ⟨sign, hsign, hminus⟩ := exists_sign (s.dropWhile isBlank)
    rw [leadingInt?_eq] at h
    obtain ⟨m, hm, rfl⟩ := Option.map_eq_some_iff.1 h
    obtain ⟨digits, rest, hsplit, hne, hdigits, hrest, rfl⟩ := exists_digits_of_leadingNat? hm
    refine ⟨s.takeWhile isBlank, sign, digits, rest, ?_, fun c hc => List.mem_takeWhile_imp hc, hne,
      hdigits, hrest, ?_⟩
    · rw [← hsplit, ← hsign, List.takeWhile_append_dropWhile]
    · rw [hminus]
      exact sign.apply_eq _
  · rintro ⟨blanks, sign, digits, rest, rfl, hblanks, hne, hdigits, hrest, rfl⟩
    rw [leadingInt?_eq, List.dropWhile_append_of_pos hblanks,
      dropWhile_isBlank_written sign hne hdigits, splitSign_written sign hne hdigits,
      leadingNat?_append hne hdigits hrest, Option.map_some]
    exact congrArg some (sign.apply_eq _)

/-- A text denotes one number at most. -/
lemma Denotes.unique {m : Int} (hn : Denotes s n) (hm : Denotes s m) : n = m :=
  Option.some.inj ((leadingInt?_eq_some_iff.2 hn).symm.trans (leadingInt?_eq_some_iff.2 hm))

end ReliableTransfer

import ReliableTransfer.Bytes

/-!
# Decimal numbers in text

Numbers are printed in decimal without leading zeros, and read from the front of a text.

* `decimal`, `decimalInt` — the printed form.
* `leadingInt?` — the number at the front of a text: blanks, an optional sign, then digits.
  Whatever follows the digits is left alone.
-/

namespace ReliableTransfer

/-- The character of a decimal digit. -/
def digitByte (d : Nat) : UInt8 :=
  UInt8.ofNat (48 + d % 10)

/-- A natural number in decimal. -/
def decimal (n : Nat) : Bytes :=
  if n < 10 then [digitByte n] else decimal (n / 10) ++ [digitByte n]

/-- What stands for a digit is between the characters of zero and nine. -/
theorem digitByte_bounds (d : Nat) : 48 ≤ digitByte d ∧ digitByte d ≤ 57 := by
  have h : d % 10 < 10 := Nat.mod_lt d (by decide)
  simp only [digitByte, UInt8.le_iff_toNat_le, UInt8.toNat_ofNat']
  simp
  omega

/-- An integer in decimal, with a minus sign when it is negative. -/
def decimalInt (n : Int) : Bytes :=
  if n < 0 then text "-" ++ decimal n.natAbs else decimal n.natAbs

/-! ## Reading -/

/-- Whether a character is a decimal digit. -/
def isDigit (c : UInt8) : Bool :=
  48 ≤ c && c ≤ 57

/-- A number in decimal consists of digits. -/
theorem isDigit_of_mem_decimal {n : Nat} {c : UInt8} (h : c ∈ decimal n) : isDigit c = true := by
  fun_induction decimal n with
  | case1 n hn =>
    rw [List.mem_singleton] at h
    simp [h, isDigit, digitByte_bounds]
  | case2 n hn ih =>
    rcases List.mem_append.1 h with h | h
    · exact ih h
    · rw [List.mem_singleton] at h
      simp [h, isDigit, digitByte_bounds]

/-- What is no digit does not occur in a number in decimal. -/
theorem notMem_decimal {c : UInt8} (h : isDigit c = false) (n : Nat) : c ∉ decimal n := fun hc => by
  rw [isDigit_of_mem_decimal hc] at h
  exact absurd h (by decide)

/-- Whether a character is a blank: a space, or one of the five controls from tab to carriage
return. -/
def isBlank (c : UInt8) : Bool :=
  c == 32 || (9 ≤ c && c ≤ 13)

/-- The value of a string of digits. -/
def digitsValue (digits : Bytes) : Nat :=
  digits.foldl (fun n c => 10 * n + (c.toNat - 48)) 0

/-- The number whose digits stand at the front of a text, if there is a digit. -/
def leadingNat? (s : Bytes) : Option Nat :=
  match s.takeWhile isDigit with
  | [] => none
  | digits => some (digitsValue digits)

/-- A sign at the front of a text, `true` for minus, and the text behind it. -/
def splitSign : Bytes → Bool × Bytes
  | 43 :: rest => (false, rest)
  | 45 :: rest => (true, rest)
  | s => (false, s)

/-- **The number at the front of a text.**  Blanks before it are skipped, a sign is obeyed, and
what follows the digits is ignored.  There is none if no digit is found. -/
def leadingInt? (s : Bytes) : Option Int :=
  let (negative, digits) := splitSign (s.dropWhile isBlank)
  (leadingNat? digits).map fun n => if negative then -(n : Int) else n

end ReliableTransfer

import ReliableTransfer.Decimal

/-!
# A fixed number of decimal places

A floating-point number is printed by rounding its exact binary value to a whole number of
thousandths; a tie goes to the even one.  No rounding happens on the way.

* `roundHalfEven` — a quotient rounded to the nearest natural number.
* `Magnitude.ofBits` — the exact value behind the bits of a floating-point number.
* **`fixed`** — the number with a given number of places.
-/

namespace ReliableTransfer

/-- The natural number nearest to `num / den`; of two equally near ones, the even one. -/
def roundHalfEven (num den : Nat) : Nat :=
  let quotient := num / den
  let rest := num % den
  if 2 * rest > den || (2 * rest == den && quotient % 2 == 1) then quotient + 1 else quotient

/-- A non-negative number `mantissa * 2 ^ exponent`. -/
structure Magnitude where
  /-- The whole-number factor. -/
  mantissa : Nat
  /-- The power of two. -/
  exponent : Int
deriving DecidableEq

namespace Magnitude

/-- The value of the bit that stands in front of the fifty-two bits of a fraction. -/
def hiddenBit : Nat := 4503599627370496

/-- The exact magnitude of the finite floating-point number with the given bits: eleven bits of
exponent, then fifty-two of fraction, with a hidden leading bit unless the exponent is zero. -/
def ofBits (bits : UInt64) : Magnitude :=
  let fraction : Nat := bits.toNat % hiddenBit
  let exponent : Nat := bits.toNat / hiddenBit % 2048
  if exponent = 0 then ⟨fraction, -1074⟩ else ⟨hiddenBit + fraction, (exponent : Int) - 1075⟩

/-- `scale` times the magnitude, rounded to the nearest natural number, ties to even. -/
def scaled (m : Magnitude) (scale : Nat) : Nat :=
  if m.exponent ≥ 0 then m.mantissa * Nat.pow 2 m.exponent.toNat * scale
  else roundHalfEven (m.mantissa * scale) (Nat.pow 2 (-m.exponent).toNat)

end Magnitude

/-- The last `width` decimal digits of `n`, zeros included. -/
def paddedDigits : Nat → Nat → Bytes
  | 0, _ => []
  | width + 1, n => paddedDigits width (n / 10) ++ [digitByte n]

/-- **A floating-point number with `places` decimal places.**  A set sign bit is always shown. -/
def fixed (places : Nat) (x : Float) : Bytes :=
  let scale := Nat.pow 10 places
  let whole := (Magnitude.ofBits x.toBits).scaled scale
  (if x.toBits ≥ 0x8000000000000000 then text "-" else []) ++
  decimal (whole / scale) ++ text "." ++ paddedDigits places whole

end ReliableTransfer

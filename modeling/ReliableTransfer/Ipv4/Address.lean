import ReliableTransfer.Decimal
import ReliableTransfer.Text

/-!
# IPv4 addresses in text

An address is four bytes, written as four decimal numbers with dots between them.  A text is
read up to its first zero byte.

* `Ipv4.Address` — the four bytes.
* `Ipv4.Address.dotted` — the written form.
* **`Ipv4.Address.parse?`** — the address a text denotes: exactly four parts, each from 0 to 255
  and without leading zeros.
* **`Ipv4.Address.parse?_dotted`** — reading the written form gives the address back.
-/

namespace ReliableTransfer

namespace Ipv4

/-- An IPv4 address. -/
structure Address where
  /-- The first byte, the most significant one. -/
  a : UInt8
  /-- The second byte. -/
  b : UInt8
  /-- The third byte. -/
  c : UInt8
  /-- The last byte. -/
  d : UInt8
deriving DecidableEq, Inhabited

namespace Address

/-- The address in network order. -/
def toBytes (x : Address) : Bytes :=
  [x.a, x.b, x.c, x.d]

/-- The address as four decimal numbers with dots between them. -/
def dotted (x : Address) : Bytes :=
  decimal x.a.toNat ++ text "." ++ decimal x.b.toNat ++ text "." ++
  decimal x.c.toNat ++ text "." ++ decimal x.d.toNat

/-- One part of a dotted address: at most 255, all digits, and no zero in front of another
digit. -/
def part? (s : Bytes) : Option UInt8 :=
  if s.isEmpty || s.length > 3 || !s.all isDigit || (s.length > 1 && s.head? == some 48) then
    none
  else if digitsValue s ≤ 255 then
    some (UInt8.ofNat (digitsValue s))
  else
    none

/-- **The address a text denotes**, if it is one.  The text ends at its first zero byte. -/
def parse? (s : Bytes) : Option Address :=
  match splitAtByte 46 (untilNul s) with
  | [a, b, c, d] => do return ⟨← part? a, ← part? b, ← part? c, ← part? d⟩
  | _ => none

/-! ## Reading what was written -/

/-- Each part of the written form is read back; there are only 256 of them. -/
theorem part?_decimal (b : UInt8) : part? (decimal b.toNat) = some b := by
  have h : ∀ n : Fin 256, part? (decimal n) = some (UInt8.ofNat n) := by decide +kernel
  simpa using h ⟨b.toNat, b.toNat_lt⟩

/-- The written form consists of digits and dots. -/
theorem isDigit_or_dot_of_mem_dotted {x : Address} {c : UInt8} (h : c ∈ x.dotted) :
    isDigit c = true ∨ c = 46 := by
  have hdot : text "." = [46] := by decide
  simp only [dotted, hdot, List.mem_append, List.mem_singleton] at h
  rcases h with (((((h | h) | h) | h) | h) | h) | h
  · exact .inl (isDigit_of_mem_decimal h)
  · exact .inr h
  · exact .inl (isDigit_of_mem_decimal h)
  · exact .inr h
  · exact .inl (isDigit_of_mem_decimal h)
  · exact .inr h
  · exact .inl (isDigit_of_mem_decimal h)

/-- The written form has no zero byte that would cut it off. -/
theorem untilNul_dotted (x : Address) : untilNul x.dotted = x.dotted := by
  apply untilNul_of_notMem
  intro h
  rcases isDigit_or_dot_of_mem_dotted h with h | h
  · exact absurd h (by decide)
  · exact absurd h (by decide)

/-- The written form has four pieces between its dots. -/
theorem splitAtByte_dotted (x : Address) :
    splitAtByte 46 x.dotted =
      [decimal x.a.toNat, decimal x.b.toNat, decimal x.c.toNat, decimal x.d.toNat] := by
  have hdot : text "." = [46] := by decide
  have h : ∀ n, (46 : UInt8) ∉ decimal n := notMem_decimal (by decide)
  simp only [dotted, hdot, List.append_assoc, List.cons_append, List.nil_append]
  rw [splitAtByte_append (h _), splitAtByte_append (h _), splitAtByte_append (h _),
    splitAtByte_of_notMem (h _)]

/-- **Reading the written form** gives the address back. -/
theorem parse?_dotted (x : Address) : parse? x.dotted = some x := by
  simp [parse?, untilNul_dotted, splitAtByte_dotted, part?_decimal]

end Address

end Ipv4

end ReliableTransfer

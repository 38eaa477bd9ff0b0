/-!
# Byte strings and big-endian words

Everything that travels, is stored or is printed is a string of bytes.  This file fixes that
type and the order in which a word of two or four bytes is laid out in it.

* `Bytes` — a string of bytes; `text` gives the bytes of a text.
* `word16`, `word32` — a word as bytes, most significant byte first.
* `joinWord16`, `joinWord32` — the word that such bytes stand for.
* **`joinWord16_bytes`**, **`joinWord32_bytes`** — laying a word out and joining it again gives
  the word back.
* `word16_joinWord16`, `word32_joinWord32` — and so does joining bytes and laying them out again.
-/

namespace ReliableTransfer

/-- A string of bytes: a datagram, the content of a file, a name or a message. -/
abbrev Bytes := List UInt8

/-- The bytes of a text, in UTF-8. -/
def text (s : String) : Bytes :=
  s.toUTF8.data.toList

/-! ## Words, most significant byte first

The bytes are taken off a word by division and put together by multiplication, so that what a
layout means can be read off in the natural numbers. -/

/-- A word of two bytes, most significant first. -/
def word16 (v : UInt16) : Bytes :=
  [(v / 256).toUInt8, v.toUInt8]

/-- A word of four bytes, most significant first. -/
def word32 (v : UInt32) : Bytes :=
  [(v / 16777216).toUInt8, (v / 65536).toUInt8, (v / 256).toUInt8, v.toUInt8]

/-- The word whose bytes are `a` and `b`, the more significant one first. -/
def joinWord16 (a b : UInt8) : UInt16 :=
  256 * a.toUInt16 + b.toUInt16

/-- The word whose bytes are `a`, `b`, `c` and `d`, the most significant one first. -/
def joinWord32 (a b c d : UInt8) : UInt32 :=
  16777216 * a.toUInt32 + 65536 * b.toUInt32 + 256 * c.toUInt32 + d.toUInt32

/-- The word of two bytes at the front of a byte string, if it has two bytes. -/
def readWord16? : Bytes → Option UInt16
  | a :: b :: _ => some (joinWord16 a b)
  | _ => none

/-- The word of four bytes at the front of a byte string, if it has four bytes. -/
def readWord32? : Bytes → Option UInt32
  | a :: b :: c :: d :: _ => some (joinWord32 a b c d)
  | _ => none

/-- A word of sixteen bits takes two bytes. -/
theorem length_word16 (v : UInt16) : (word16 v).length = 2 := rfl

/-- A word of thirty-two bits takes four bytes. -/
theorem length_word32 (v : UInt32) : (word32 v).length = 4 := rfl

/-- The value of a word of two bytes; no byte can push the sum past the word. -/
theorem toNat_joinWord16 (a b : UInt8) :
    (joinWord16 a b).toNat = 256 * a.toNat + b.toNat := by
  have ha := a.toNat_lt
  have hb := b.toNat_lt
  simp [joinWord16]
  omega

/-- The value of a word of four bytes; no byte can push the sum past the word. -/
theorem toNat_joinWord32 (a b c d : UInt8) :
    (joinWord32 a b c d).toNat
      = 16777216 * a.toNat + 65536 * b.toNat + 256 * c.toNat + d.toNat := by
  have ha := a.toNat_lt
  have hb := b.toNat_lt
  have hc := c.toNat_lt
  have hd := d.toNat_lt
  simp [joinWord32]
  omega

/-- The two bytes of a word make that word again. -/
theorem joinWord16_bytes (v : UInt16) : joinWord16 (v / 256).toUInt8 v.toUInt8 = v := by
  apply UInt16.toNat_inj.1
  have hv := v.toNat_lt
  simp [toNat_joinWord16]
  omega

/-- The four bytes of a word make that word again. -/
theorem joinWord32_bytes (v : UInt32) :
    joinWord32 (v / 16777216).toUInt8 (v / 65536).toUInt8 (v / 256).toUInt8 v.toUInt8 = v := by
  apply UInt32.toNat_inj.1
  have hv := v.toNat_lt
  simp [toNat_joinWord32]
  omega

/-- The bytes of a word that was joined are those it was joined from. -/
theorem word16_joinWord16 (a b : UInt8) : word16 (joinWord16 a b) = [a, b] := by
  have ha := a.toNat_lt
  have hb := b.toNat_lt
  simp only [word16, List.cons.injEq, and_true, ← UInt8.toNat_inj, UInt16.toNat_toUInt8,
    UInt16.toNat_div, toNat_joinWord16, UInt16.reduceToNat]
  omega

/-- The bytes of a word that was joined are those it was joined from. -/
theorem word32_joinWord32 (a b c d : UInt8) : word32 (joinWord32 a b c d) = [a, b, c, d] := by
  have ha := a.toNat_lt
  have hb := b.toNat_lt
  have hc := c.toNat_lt
  have hd := d.toNat_lt
  simp only [word32, List.cons.injEq, and_true, ← UInt8.toNat_inj, UInt32.toNat_toUInt8,
    UInt32.toNat_div, toNat_joinWord32, UInt32.reduceToNat]
  omega

/-- Reading the front of a laid-out word gives the word, whatever follows it. -/
theorem readWord16?_word16 (v : UInt16) (rest : Bytes) :
    readWord16? (word16 v ++ rest) = some v := by
  simp [word16, readWord16?, joinWord16_bytes]

/-- Reading the front of a laid-out word gives the word, whatever follows it. -/
theorem readWord32?_word32 (v : UInt32) (rest : Bytes) :
    readWord32? (word32 v ++ rest) = some v := by
  simp [word32, readWord32?, joinWord32_bytes]

end ReliableTransfer

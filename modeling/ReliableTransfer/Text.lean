import ReliableTransfer.Bytes

/-!
# Texts that end at a zero byte and texts in pieces

Addresses, paths and arguments reach the system as strings that end at their first zero byte.
Addresses and paths are then taken apart at their dots and slashes.

* `untilNul` — the part of a text before its first zero byte.
* `splitAtByte` — the pieces of a text between the occurrences of a separator.
* **`splitAtByte_append`** — the first piece is what stands before the first separator.
-/

namespace ReliableTransfer

/-- The part of a text before its first zero byte. -/
def untilNul (s : Bytes) : Bytes :=
  s.takeWhile (· != 0)

/-- The pieces of a text between the occurrences of `sep`; there is always at least one. -/
def splitAtByte (sep : UInt8) : Bytes → List Bytes
  | [] => [[]]
  | c :: rest =>
    match splitAtByte sep rest with
    | [] => [[c]]
    | piece :: pieces => if c == sep then [] :: piece :: pieces else (c :: piece) :: pieces

/-- A text without zero bytes is whole. -/
theorem untilNul_of_notMem {s : Bytes} (h : 0 ∉ s) : untilNul s = s := by
  induction s with
  | nil => rfl
  | cons c rest ih =>
    rw [List.mem_cons, not_or] at h
    have hc : (c != 0) = true := by
      rw [bne_iff_ne]
      exact fun e => h.1 e.symm
    have hrest := ih h.2
    unfold untilNul at hrest ⊢
    simp only [List.takeWhile_cons, hc, hrest, if_true]

/-- Cutting a text gives at least one part, which may be empty. -/
theorem splitAtByte_ne_nil (sep : UInt8) (s : Bytes) : splitAtByte sep s ≠ [] := by
  cases s with
  | nil => simp [splitAtByte]
  | cons c rest =>
    unfold splitAtByte
    split
    · simp
    · split <;> simp

/-- A text without the separator is one piece. -/
theorem splitAtByte_of_notMem {sep : UInt8} {s : Bytes} (h : sep ∉ s) :
    splitAtByte sep s = [s] := by
  induction s with
  | nil => rfl
  | cons c rest ih =>
    rw [List.mem_cons, not_or] at h
    have hc : ¬ c = sep := fun e => h.1 e.symm
    simp [splitAtByte, ih h.2, hc]

/-- The first piece is what stands before the first separator. -/
theorem splitAtByte_append {sep : UInt8} {s : Bytes} (h : sep ∉ s) (rest : Bytes) :
    splitAtByte sep (s ++ sep :: rest) = s :: splitAtByte sep rest := by
  induction s with
  | nil =>
    simp only [List.nil_append, splitAtByte]
    split
    · rename_i heq
      exact absurd heq (splitAtByte_ne_nil sep rest)
    · rename_i heq
      simp [heq]
  | cons c s ih =>
    rw [List.mem_cons, not_or] at h
    have hc : ¬ c = sep := fun e => h.1 e.symm
    simp [splitAtByte, ih h.2, hc]

end ReliableTransfer

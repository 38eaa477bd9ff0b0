import ReliableTransfer.Outcome

/-!
# What the two command lines share

Arguments are strings that end at their first zero byte.  Numbers are read from the front of an
argument and brought into the width of the setting they are for; only a number beyond the
machine word it is read into is turned down.

* `signed32?`, `unsigned64?` — the numbers an argument can give.
* `toPort`, `toWindow` — a number in the width of a port and of a window.
* `Exit`, `exitOf` — how a program ends, seen from outside.
-/

namespace ReliableTransfer.CommandLine

/-- The first number that takes more than sixty-four bits. -/
def wordSize : Nat := 18446744073709551616

/-- The signed number of thirty-two bits at the front of an argument. -/
def signed32? (s : Bytes) : Option Int := do
  let n ← leadingInt? s
  if -2147483648 ≤ n ∧ n ≤ 2147483647 then some n else none

/-- The unsigned number of sixty-four bits at the front of an argument.  A minus sign is obeyed
modulo the width. -/
def unsigned64? (s : Bytes) : Option Nat := do
  let n ← leadingInt? s
  if n.natAbs < wordSize then some (n % wordSize).toNat else none

/-- A number in the width of a port. -/
def toPort (n : Int) : UInt16 :=
  UInt16.ofNat (n % 65536).toNat

/-- A number in the width of a window. -/
def toWindow (n : Nat) : UInt32 :=
  UInt32.ofNat n

/-- How a program ends, seen from outside, and the machine it leaves behind. -/
structure Exit where
  /-- The exit code; none if the program is still at work at the limit, or broke off. -/
  code : Option Nat
  /-- The machine. -/
  host : Host

/-- The exit code of a run: zero for a transfer that went well. -/
def codeOf : Conclusion → Option Nat
  | .unfinished => none
  | .broken _ => none
  | .notStarted => some 2
  | .finished false => some 3
  | .finished true => some 0

/-- How a program ends whose arguments were turned down. -/
def refuse (notices : List Notice) (h : Host) : Exit :=
  ⟨some 1, notices.foldl Host.note h⟩

/-- How a program ends whose run came out in some way. -/
def exitOf (o : Outcome) : Exit :=
  ⟨codeOf o.conclusion, o.host⟩

end ReliableTransfer.CommandLine

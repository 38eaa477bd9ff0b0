/-!
# Tasks that take turns in virtual time

Several tasks share one state.  One of them runs at a time, until it has to wait or ends; then
the ready task with the lowest number runs.  Work takes no time.  When no task is ready, the
clock jumps to the earliest time for which one of them waits.

* `Readiness` — what a task waits for.
* `System` — a state with a clock and tasks in it.
* `System.firstReady?`, `System.nextDue?` — whose turn it is, and when the next turn comes.
* **`System.step?`** — one turn, or one jump of the clock, up to a limit.
* **`System.run`** — as many of them as it takes, up to a given number.
-/

namespace ReliableTransfer

/-- What a task waits for. -/
inductive Readiness
  /-- For its turn only. -/
  | ready
  /-- For a time. -/
  | dueAt (time : Int)
  /-- For something another task has to do, or it has ended. -/
  | held
deriving DecidableEq

namespace Readiness

/-- Whether a task can run at a given time. -/
def isReadyAt (now : Int) : Readiness → Bool
  | ready => true
  | dueAt time => time ≤ now
  | held => false

/-- The time a task waits for, if it waits for one. -/
def due? : Readiness → Option Int
  | dueAt time => some time
  | _ => none

end Readiness

/-- A state with a clock and numbered tasks in it. -/
structure System (σ : Type) where
  /-- The clock. -/
  now : σ → Int
  /-- Moves the clock on. -/
  advanceTo : Int → σ → σ
  /-- What each task waits for, by its number. -/
  tasks : σ → List Readiness
  /-- Lets a task run until it waits again or ends. -/
  resume : Nat → σ → σ

namespace System

variable {σ : Type} (sys : System σ)

/-- The lowest-numbered task that can run now. -/
def firstReady? (s : σ) : Option Nat :=
  (sys.tasks s).findIdx? (·.isReadyAt (sys.now s))

/-- The earliest time for which a task waits. -/
def nextDue? (s : σ) : Option Int :=
  ((sys.tasks s).filterMap (·.due?)).min?

/-- Whether a time lies within a limit, which is itself included. -/
def within (limit : Option Int) (time : Int) : Bool :=
  limit.all (time ≤ ·)

/-- **One turn** of the first ready task or, if there is none, one jump of the clock; nothing if
all tasks wait for good or for times beyond the limit. -/
def step? (limit : Option Int) (s : σ) : Option σ :=
  match sys.firstReady? s with
  | some i => some (sys.resume i s)
  | none =>
    match sys.nextDue? s with
    | some time => if within limit time then some (sys.advanceTo time s) else none
    | none => none

/-- **Turns and jumps** one after the other, at most `fuel` of them, until nothing more happens
within the limit. -/
def run (limit : Option Int) : Nat → σ → σ
  | 0, s => s
  | fuel + 1, s =>
    match sys.step? limit s with
    | some s' => run limit fuel s'
    | none => s

/-! ## What a run keeps

A run is made of turns and jumps only, so what both of them keep is kept by the whole. -/

/-- A step is a turn of a task or a jump of the clock. -/
theorem step?_eq_some {limit : Option Int} {s s' : σ} (h : sys.step? limit s = some s') :
    (∃ i, sys.firstReady? s = some i ∧ s' = sys.resume i s) ∨
    (∃ time, sys.firstReady? s = none ∧ sys.nextDue? s = some time ∧ within limit time = true ∧
      s' = sys.advanceTo time s) := by
  unfold step? at h
  split at h
  · rename_i i hi
    exact .inl ⟨i, hi, (Option.some.inj h).symm⟩
  · rename_i hnone
    split at h
    · rename_i time hdue
      split at h
      · rename_i hwithin
        exact .inr ⟨time, hnone, hdue, hwithin, (Option.some.inj h).symm⟩
      · exact absurd h (by simp)
    · exact absurd h (by simp)

/-- **Invariants**: what every turn and every jump keeps holds after a run. -/
theorem run_invariant {P : σ → Prop} (hresume : ∀ i s, P s → P (sys.resume i s))
    (hadvance : ∀ time s, P s → P (sys.advanceTo time s)) (limit : Option Int) (fuel : Nat)
    {s : σ} (hs : P s) : P (sys.run limit fuel s) := by
  induction fuel generalizing s with
  | zero => exact hs
  | succ fuel ih =>
    unfold run
    split
    · rename_i s' hstep
      apply ih
      rcases sys.step?_eq_some hstep with ⟨i, _, rfl⟩ | ⟨time, _, _, _, rfl⟩
      · exact hresume i s hs
      · exact hadvance time s hs
    · exact hs

/-- A system in which nothing can happen stays as it is. -/
theorem run_of_step?_eq_none {limit : Option Int} {s : σ} (h : sys.step? limit s = none)
    (fuel : Nat) : sys.run limit fuel s = s := by
  cases fuel with
  | zero => rfl
  | succ fuel => simp [run, h]

/-- A run can be taken in two parts. -/
theorem run_add (limit : Option Int) (m n : Nat) (s : σ) :
    sys.run limit (m + n) s = sys.run limit n (sys.run limit m s) := by
  induction m generalizing s with
  | zero => simp [run]
  | succ m ih =>
    rw [Nat.succ_add]
    cases h : sys.step? limit s with
    | some s' => simp [run, h, ih]
    | none => simp [run, h, sys.run_of_step?_eq_none h]

end System

end ReliableTransfer

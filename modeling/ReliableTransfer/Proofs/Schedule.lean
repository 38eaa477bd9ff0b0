import Mathlib.Logic.Relation
import Mathlib.Tactic.Common
import ReliableTransfer.Schedule

/-!
# Whose turn it is

A turn is only ever taken by a task that can run, so what a turn has to keep may be shown with
that known.

* `System.ready_of_firstReady?`, `System.not_ready_of_lt_firstReady?` — the task whose turn it is
  can run, and none with a lower number can.
* `System.Idle` — no task can run now.
* **`System.run_invariant_of_ready`** — what every turn that is taken keeps holds after a run.
* `System.Passes` — the states a run passes.
* `System.Passes.mono`, `System.Passes.linear`, `System.Passes.to_last` — a later limit only lets a
  run go on; and there is only one way on, which leads to the last state from any other.
* **`System.step?_run_of_lt`** — a run comes to its end if every step makes something smaller that
  the fuel exceeds.
-/

namespace ReliableTransfer.System

variable {σ : Type} (sys : System σ)

/-- The task whose turn it is can run. -/
lemma ready_of_firstReady? {s : σ} {i : Nat} (h : sys.firstReady? s = some i) :
    ∃ r, (sys.tasks s)[i]? = some r ∧ r.isReadyAt (sys.now s) = true := by
  rw [firstReady?, List.findIdx?_eq_some_iff_getElem] at h
  obtain ⟨hi, hready, _⟩ := h
  exact ⟨_, List.getElem?_eq_getElem hi, hready⟩

/-- None of the tasks before it can. -/
lemma not_ready_of_lt_firstReady? {s : σ} {i j : Nat} (h : sys.firstReady? s = some i) (hj : j < i)
    {r : Readiness} (hr : (sys.tasks s)[j]? = some r) : r.isReadyAt (sys.now s) = false := by
  rw [firstReady?, List.findIdx?_eq_some_iff_getElem] at h
  obtain ⟨hi, _, hlower⟩ := h
  obtain ⟨hlength, rfl⟩ := List.getElem?_eq_some_iff.1 hr
  simpa using hlower j hj

/-- **All tasks are blocked**: none of them can run now. -/
def Idle (s : σ) : Prop :=
  sys.firstReady? s = none

variable {sys} in
lemma Idle.not_ready {s : σ} (h : sys.Idle s) {r : Readiness} (hr : r ∈ sys.tasks s) :
    r.isReadyAt (sys.now s) = false := by
  rw [Idle, firstReady?, List.findIdx?_eq_none_iff] at h
  exact h r hr

/-- Nothing more happens within a limit once all tasks are blocked, and for no time within it. -/
lemma step?_eq_none {limit : Option Int} {s : σ} (h : sys.step? limit s = none) :
    sys.Idle s ∧ ∀ time, sys.nextDue? s = some time → within limit time = false := by
  rw [step?] at h
  split at h
  · cases h
  · rename_i hidle
    refine ⟨hidle, fun time hdue => ?_⟩
    rw [hdue] at h
    dsimp only at h
    split_ifs at h with hwithin
    exact Bool.eq_false_iff.2 hwithin

/-- The next time is one a task waits for. -/
lemma mem_of_nextDue? {s : σ} {time : Int} (h : sys.nextDue? s = some time) :
    .dueAt time ∈ sys.tasks s ∧ ∀ time', .dueAt time' ∈ sys.tasks s → time ≤ time' := by
  rw [nextDue?, List.min?_eq_some_iff] at h
  obtain ⟨hmem, hle⟩ := h
  refine ⟨?_, fun time' htime' => hle time' (List.mem_filterMap.2 ⟨_, htime', rfl⟩)⟩
  obtain ⟨r, hr, hdue⟩ := List.mem_filterMap.1 hmem
  cases r with
  | dueAt t =>
      rw [← Option.some.inj hdue]
      exact hr
  | ready => cases hdue
  | held => cases hdue

/-- If a task waits for a time, there is a next time. -/
lemma exists_nextDue? {s : σ} {time : Int} (h : .dueAt time ∈ sys.tasks s) :
    ∃ time', sys.nextDue? s = some time' := by
  rw [← Option.isSome_iff_exists, nextDue?, List.isSome_min?_iff]
  exact List.ne_nil_of_mem (List.mem_filterMap.2 ⟨_, h, rfl⟩)

/-- Where nothing more happens up to a time, all tasks that wait for a time wait for a later one. -/
lemma lt_of_step?_eq_none {s : σ} {time time' : Int} (h : sys.step? (some time) s = none)
    (hmem : .dueAt time' ∈ sys.tasks s) : time < time' := by
  obtain ⟨first, hfirst⟩ := sys.exists_nextDue? hmem
  have hle := (sys.mem_of_nextDue? hfirst).2 time' hmem
  have hlt : time < first :=
    Int.not_le.1 (of_decide_eq_false ((sys.step?_eq_none h).2 first hfirst))
  omega

/-- **Invariants, one turn at a time**: what the turns of tasks that can run keep, and the jumps of
the clock, holds after a run. -/
lemma run_invariant_of_ready {P : σ → Prop}
    (hresume : ∀ i s, sys.firstReady? s = some i → P s → P (sys.resume i s))
    (hadvance : ∀ time s, P s → P (sys.advanceTo time s)) (limit : Option Int) (fuel : Nat)
    {s : σ} (hs : P s) : P (sys.run limit fuel s) := by
  induction fuel generalizing s with
  | zero => exact hs
  | succ fuel ih =>
      rw [run]
      split
      · rename_i s' hstep
        rcases sys.step?_eq_some hstep with ⟨i, hi, rfl⟩ | ⟨time, _, _, _, rfl⟩
        · exact ih (hresume i s hi hs)
        · exact ih (hadvance time s hs)
      · exact hs

/-! ## The states on the way -/

/-- A run from the first state passes the second. -/
abbrev Passes (limit : Option Int) : σ → σ → Prop :=
  Relation.ReflTransGen fun s s' => sys.step? limit s = some s'

/-- A run ends in a state it passes. -/
lemma passes_run (limit : Option Int) (fuel : Nat) (s : σ) :
    sys.Passes limit s (sys.run limit fuel s) := by
  induction fuel generalizing s with
  | zero => exact .refl
  | succ fuel ih =>
      rw [run]
      split
      · rename_i s' hstep
        exact (ih s').head hstep
      · exact .refl

/-- A run passes the state after a turn, whatever its limit. -/
lemma passes_resume (limit : Option Int) {s : σ} {i : Nat} (h : sys.firstReady? s = some i) :
    sys.Passes limit s (sys.resume i s) :=
  .single (by rw [step?, h])

/-- What happens within a limit happens within a later one. -/
lemma Passes.mono {limit limit' : Int} (hle : limit ≤ limit') {s s' : σ}
    (hpasses : sys.Passes (some limit) s s') : sys.Passes (some limit') s s' := by
  refine Relation.ReflTransGen.mono (fun s s' hstep => ?_) s s' hpasses
  rcases sys.step?_eq_some hstep with ⟨i, hi, rfl⟩ | ⟨time, hidle, hdue, hwithin, rfl⟩
  · rw [step?, hi]
  · have hwithin' : within (some limit') time = true :=
      decide_eq_true (Int.le_trans (of_decide_eq_true hwithin) hle)
    rw [step?, hidle, hdue]
    exact if_pos hwithin'

variable {sys} in
/-- **There is only one way on.** -/
lemma Passes.linear {limit : Option Int} {s a b : σ} (ha : sys.Passes limit s a)
    (hb : sys.Passes limit s b) : sys.Passes limit a b ∨ sys.Passes limit b a :=
  Relation.ReflTransGen.total_of_right_unique
    (fun _ _ _ h h' => Option.some.inj (h.symm.trans h')) ha hb

variable {sys} in
/-- Nothing comes after the last state. -/
lemma Passes.eq_of_last {limit : Option Int} {s s' : σ} (hlast : sys.step? limit s = none)
    (hpasses : sys.Passes limit s s') : s' = s := by
  rcases hpasses.cases_head with rfl | ⟨next, hstep, _⟩
  · rfl
  · rw [hlast] at hstep
    cases hstep

variable {sys} in
/-- Every state on the way leads to the last. -/
lemma Passes.to_last {limit : Option Int} {s a b : σ} (ha : sys.Passes limit s a)
    (hb : sys.Passes limit s b) (hlast : sys.step? limit b = none) : sys.Passes limit a b := by
  rcases ha.linear hb with hab | hba
  · exact hab
  · rw [hba.eq_of_last hlast]

/-- **A run comes to its end**: where every step keeps `P` and makes `size` smaller, and the fuel is
not below the size at first, nothing more can happen afterwards. -/
lemma step?_run_of_lt {limit : Option Int} {P : σ → Prop} (size : σ → Nat)
    (hstep : ∀ s s', P s → sys.step? limit s = some s' → P s' ∧ size s' < size s) {fuel : Nat}
    {s : σ} (hs : P s) (hsize : size s ≤ fuel) : sys.step? limit (sys.run limit fuel s) = none := by
  induction fuel generalizing s with
  | zero =>
      rw [run]
      cases h : sys.step? limit s with
      | none => rfl
      | some s' =>
          have hlt := (hstep s s' hs h).2
          omega
  | succ fuel ih =>
      rw [run]
      cases h : sys.step? limit s with
      | none => exact h
      | some s' =>
          obtain ⟨hs', hlt⟩ := hstep s s' hs h
          exact ih hs' (by omega)

end ReliableTransfer.System
